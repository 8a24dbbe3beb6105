import SqliteMc.Model.Vfs

/-!
# What the database file holds

The pages that were written to the main database through the file layer, each with the key it
was written under, are what the file represents. Whatever happens to the other files of the
connection, and whatever is read, they stay; a page under the read key is read back.

* `Vfs.frame_write`, `Vfs.readFrame_read`: what an operation leaves alone.
* `Vfs.represents_run`: the file represents the pages after every sequence of operations.
* `Vfs.read_page`, `Vfs.read_part`: the content of a page, all of it or a part.
-/

namespace SqliteMc

namespace Native

open Buffer ChaCha20

namespace Vfs

variable {d : Digests} {v v' v'' : Vfs} {c : Codec} {k : FileKind}

-- ---------------------------------------------------------------------------
-- What stays
-- ---------------------------------------------------------------------------

/-- The codec of the main database without its error codes. -/
def settings (v : Vfs) : Option Codec := v.codec.map Codec.settings

/-- Nothing but one file has changed, apart from error codes and random numbers. -/
structure Frame (k : FileKind) (v v' : Vfs) : Prop where
  settings : v'.settings = v.settings
  files : ∀ j, j ≠ k → v'.files j = v.files j

/-- No file has changed. -/
structure ReadFrame (v v' : Vfs) : Prop where
  settings : v'.settings = v.settings
  file : ∀ j, (v'.files j).file = (v.files j).file
  pMainDb : ∀ j, (v'.files j).pMainDb = (v.files j).pMainDb

theorem Frame.refl (k : FileKind) (v : Vfs) : Frame k v v := ⟨rfl, fun _ _ => rfl⟩

theorem Frame.trans (h : Frame k v v') (h' : Frame k v' v'') : Frame k v v'' :=
  ⟨h'.settings.trans h.settings, fun j hj => (h'.files j hj).trans (h.files j hj)⟩

theorem ReadFrame.refl (v : Vfs) : ReadFrame v v := ⟨rfl, fun _ => rfl, fun _ => rfl⟩

@[simp] theorem setFile_self (f : McFile) : (v.setFile k f).files k = f := Function.update_self ..

/-- Setting a file leaves every other file. -/
theorem setFile_of_ne {j : FileKind} (h : j ≠ k) (f : McFile) :
    (v.setFile k f).files j = v.files j := Function.update_of_ne h ..

theorem frame_setFile (k : FileKind) (f : McFile) : Frame k v (v.setFile k f) :=
  ⟨rfl, fun _ hj => setFile_of_ne hj f⟩

theorem frame_writeReal (k : FileKind) (data : Bytes) (offset : Nat) :
    Frame k v (v.writeReal k data offset) := frame_setFile k _

/-- Another codec that differs in error codes only. -/
theorem frame_setCodec {c' : Codec} (hv : v.codec = some c) (h : c'.settings = c.settings)
    (g : Rng) : Frame k v { v with codec := some c', rng := g } :=
  ⟨by simp [settings, hv, h], fun _ _ => rfl⟩

/-- The codec that works on a file is the codec of the database, and it encrypts. -/
theorem codec_of_active (h : v.active k = some c) : v.codec = some c ∧ c.isEncrypted = true := by
  unfold active at h
  split at h
  · exact Option.filter_eq_some_iff.mp h
  · cases h

/-- Writing a page frames every other file, and the settings of the codec. -/
theorem frame_writePage (hv : v.codec = some c) (k : FileKind) (data : Bytes)
    (pageNo offset : Nat) (useWriteKey : Bool) :
    Frame k v (v.writePage d c k data pageNo offset useWriteKey) :=
  (frame_setCodec hv (Codec.settings_store data pageNo useWriteKey v.rng) _).trans
    (frame_writeReal k _ offset)

/-- Writing several pages frames every other file, and the settings of the codec. -/
theorem frame_storePages (n : Nat) (v : Vfs) (data : Bytes) (pageNo offset : Nat) :
    Frame .mainDb v (storePages d n v data pageNo offset) := by
  induction n generalizing v data pageNo offset with
  | zero => exact Frame.refl _ v
  | succ n ih =>
    unfold storePages
    split
    · exact Frame.refl _ v
    · rename_i c hv
      exact (frame_writePage hv _ _ _ _ _).trans (ih _ _ _ _)

/-- A write changes nothing but its own file. -/
theorem frame_write (d : Digests) (v : Vfs) (k : FileKind) (data : Bytes) (offset : Nat) :
    Frame k v (mcIoWrite d v k data offset) := by
  have hjournal (k : FileKind) : Frame k v (writeJournal d v k data offset) := by
    unfold writeJournal
    split
    · exact frame_writeReal _ _ _
    · rename_i c hactive
      dsimp only
      split_ifs
      · exact frame_writePage (codec_of_active hactive).1 _ _ _ _ _
      · exact (frame_writeReal _ _ _).trans (frame_setFile _ _)
      · exact frame_writeReal _ _ _
  cases k with
  | mainDb =>
    show Frame _ v (writeMainDb d v data offset)
    unfold writeMainDb
    split
    · exact frame_writeReal _ _ _
    · split_ifs
      · exact frame_writeReal _ _ _
      · exact frame_storePages _ _ _ _ _
  | mainJournal => exact hjournal .mainJournal
  | subJournal => exact hjournal .subJournal
  | wal =>
    show Frame _ v (writeWal d v data offset)
    unfold writeWal
    split
    · exact frame_writeReal _ _ _
    · rename_i c hactive
      have hv := (codec_of_active hactive).1
      dsimp only
      -- the buffer as it is, a page encrypted, or a frame with its page encrypted
      split_ifs <;> first
        | exact frame_writeReal _ _ _
        | exact frame_writePage hv _ _ _ _ _
        | exact ((frame_setCodec hv (Codec.settings_store _ _ _ _) _).trans
            (frame_writeReal _ _ _)).trans (frame_writeReal _ _ _)
  | other => exact frame_writeReal _ _ _

/-- Loading several pages changes no settings of the codec. -/
theorem settings_loadPages (n : Nat) (c : Codec) (buffer : Bytes) (pageNo : Nat) :
    (loadPages d n c buffer pageNo).2.settings = c.settings := by
  induction n generalizing c buffer pageNo with
  | zero => rfl
  | succ n ih => exact (ih _ _ _).trans (Codec.settings_load _ _)

/-- A load may change the codec's errors, which the frame does not speak of. -/
theorem readFrame_setCodec {c' : Codec} (hv : v.codec = some c) (h : c'.settings = c.settings) :
    ReadFrame v { v with codec := some c' } :=
  ⟨by simp [settings, hv, h], fun _ => rfl, fun _ => rfl⟩

/-- A read may note a page number. -/
theorem ReadFrame.setPageNo (h : ReadFrame v v') (k : FileKind) (pageNo : Nat) :
    ReadFrame v (v'.setFile k { v.files k with pageNo := pageNo }) := by
  refine ⟨h.settings, fun j => ?_, fun j => ?_⟩
  · by_cases hj : j = k
    · subst hj
      rw [setFile_self]
    · rw [setFile_of_ne hj, h.file]
  · by_cases hj : j = k
    · subst hj
      rw [setFile_self]
    · rw [setFile_of_ne hj, h.pMainDb]

/-- A read changes no file. -/
theorem readFrame_read (d : Digests) (v : Vfs) (k : FileKind) (count offset : Nat) :
    ReadFrame v (mcIoRead d v k count offset).2.2 := by
  -- journals of both kinds: a page, a number that is noted, or neither
  have hjournal (k : FileKind) (buffer : Bytes) :
      ReadFrame v (readJournal d v k buffer count).2.2 := by
    unfold readJournal
    split
    · exact ReadFrame.refl v
    · rename_i c hactive
      have hload := readFrame_setCodec (codec_of_active hactive).1
        (Codec.settings_load (d := d) buffer (v.files k).pageNo)
      dsimp only
      split_ifs
      · exact hload.setPageNo k 0
      · exact hload
      · exact (ReadFrame.refl v).setPageNo k _
      · exact ReadFrame.refl v
  unfold mcIoRead
  dsimp only
  split
  · exact ReadFrame.refl v
  -- one case for each file of the connection
  · cases k with
    | mainDb =>
      show ReadFrame v (readMainDb d v _ count offset).2.2
      unfold readMainDb
      split
      · exact ReadFrame.refl v
      · split
        · exact ReadFrame.refl v
        · rename_i c hactive
          have hv := (codec_of_active hactive).1
          dsimp only
          split_ifs
          · exact ReadFrame.refl v
          · exact readFrame_setCodec hv (Codec.settings_load _ _)
          · exact readFrame_setCodec hv (settings_loadPages _ _ _ _)
          · exact readFrame_setCodec hv (settings_loadPages _ _ _ _)
    | mainJournal => exact hjournal .mainJournal _
    | subJournal => exact hjournal .subJournal _
    | wal =>
      show ReadFrame v (readWal d v _ count offset).2.2
      unfold readWal
      split
      · exact ReadFrame.refl v
      · rename_i c hactive
        have hv := (codec_of_active hactive).1
        dsimp only
        split_ifs <;> first
          | exact ReadFrame.refl v
          | exact readFrame_setCodec hv (Codec.settings_load _ _)
    | other => exact ReadFrame.refl v

-- ---------------------------------------------------------------------------
-- Pages
-- ---------------------------------------------------------------------------

/-- The codec of the connection, whatever its error codes are. -/
def Uses (v : Vfs) (c : Codec) : Prop := v.settings = some c.settings

/-- A file system that uses a codec's settings has a codec with these settings. -/
theorem Uses.exists_codec (h : v.Uses c) : ∃ c', v.codec = some c' ∧ c'.settings = c.settings :=
  Option.map_eq_some_iff.mp h

/-- What uses a codec's settings still does with equal settings. -/
theorem Uses.congr (h : v.Uses c) (hs : v'.settings = v.settings) : v'.Uses c := hs.trans h

/-- The codec works on the database, and on the journals of one. -/
theorem active_of_codec (hv : v.codec = some c) (henc : c.isEncrypted = true)
    (hk : k = .mainDb ∨ (v.files k).pMainDb = true) : v.active k = some c := by
  rw [active, if_pos hk, hv]
  simp [henc]

/-- A page with the key it was written under. -/
structure Page where
  key : Option PageCipher
  data : Bytes

/-- The pages of a database from its first one, as far as they are known. -/
abbrev Pages := Nat → Option Page

/-- The bytes at the place of a page are that page. -/
def Represents (d : Digests) (c : Codec) (v : Vfs) (m : Pages) : Prop :=
  FileImage.Holds (fun i => i * c.pageSize) c.pageSize
    (fun i a bytes => Sealed d a.key c.reserved (i + 1) a.data bytes) (v.files .mainDb).file m

/-- What a file represents depends on its bytes. -/
theorem Represents.congr {m : Pages} (h : Represents d c v m)
    (hfile : (v'.files .mainDb).file = (v.files .mainDb).file) : Represents d c v' m := by
  unfold Represents
  rwa [hfile]

/-- What a file represents depends on the layout of the pages, not on the keys of the codec. -/
theorem Represents.layout {c' : Codec} {m : Pages} (h : Represents d c v m)
    (hps : c'.pageSize = c.pageSize) (hres : c'.reserved = c.reserved) : Represents d c' v m := by
  unfold Represents
  rwa [hps, hres]

/-- What a file represents depends on the settings of the codec. -/
theorem Represents.settings {c' : Codec} {m : Pages} (h : Represents d c v m)
    (hs : c'.settings = c.settings) : Represents d c' v m := by
  obtain ⟨hps, hres, -, -⟩ := Codec.fields_congr hs
  exact h.layout hps hres

/-- The places of different pages do not meet. -/
theorem pages_disjoint {i j : Nat} (ps : Nat) (h : j ≠ i) :
    j * ps + ps ≤ i * ps ∨ i * ps + ps ≤ j * ps := by
  rcases Nat.lt_or_gt_of_ne h with hlt | hgt
  · left
    have hmul := Nat.mul_le_mul_right ps (Nat.succ_le_of_lt hlt)
    rwa [Nat.succ_mul] at hmul
  · right
    have hmul := Nat.mul_le_mul_right ps (Nat.succ_le_of_lt hgt)
    rwa [Nat.succ_mul] at hmul

-- ---------------------------------------------------------------------------
-- Writing pages
-- ---------------------------------------------------------------------------

/-- The first page is the start of a database. -/
def StartsAt (i : Nat) (data : Bytes) : Prop := PageCipher.StartsDatabase (i + 1) data

/-- A page behind the first has nothing to begin with. -/
theorem startsAt_succ (i : Nat) (data : Bytes) : StartsAt (i + 1) data := fun h => by omega

/-- One page, under the write key. -/
theorem represents_writePage {m : Pages} {data : Bytes} {i : Nat} (hc : c.Consistent)
    (h : Represents d c v m) (hlen : data.length = c.pageSize) (hfirst : StartsAt i data) :
    Represents d c (v.writePage d c .mainDb data (i + 1) (i * c.pageSize) true)
      (Function.update m i (some ⟨c.key true, data⟩)) := by
  -- the page is stored as `sealed_store` says, at its own place in the file
  obtain ⟨hsealed, -, -⟩ : Sealed d (c.key true) c.reserved (i + 1) data
      (c.store d data (i + 1) true v.rng).1 ∧ _ := Codec.sealed_store hc v.rng hlen hfirst
  have hfile : ((v.writePage d c .mainDb data (i + 1) (i * c.pageSize) true).files .mainDb).file =
      FileImage.write (v.files .mainDb).file (c.store d data (i + 1) true v.rng).1
        (i * c.pageSize) := by
    rw [writePage, writeReal, setFile_self]
    rfl
  unfold Represents
  rw [hfile]
  have hplace : (c.store d data (i + 1) true v.rng).1.length = c.pageSize := hsealed.length.trans hlen
  exact FileImage.Holds.write h hplace hsealed fun j b _ hji => pages_disjoint c.pageSize hji

/-- The pages of a buffer, one after the other. -/
def putPages (ps : Nat) (key : Option PageCipher) : Nat → Pages → Bytes → Nat → Pages
  | 0, m, _, _ => m
  | n + 1, m, data, i =>
    putPages ps key n (Function.update m i (some ⟨key, data.take ps⟩)) (data.drop ps) (i + 1)

/-- Writing pages one after another represents each of them, under the write key. -/
theorem represents_storePages (n : Nat) {v : Vfs} {m : Pages} {data : Bytes} {i : Nat}
    (hc : c.Consistent) (hv : v.Uses c) (h : Represents d c v m)
    (hlen : n * c.pageSize ≤ data.length)
    (hfirst : 0 < n → StartsAt i (data.take c.pageSize)) :
    Represents d c (storePages d n v data (i + 1) (i * c.pageSize))
      (putPages c.pageSize (c.key true) n m data i) := by
  induction n generalizing v m data i with
  | zero => exact h
  | succ n ih =>
    obtain ⟨c', hcodec, hs⟩ := hv.exists_codec
    obtain ⟨hps, -, -, -⟩ := Codec.fields_congr hs
    rw [Nat.succ_mul] at hlen
    have hfirstlen : (data.take c.pageSize).length = c.pageSize := by
      rw [List.length_take]
      omega
    have hrestlen : n * c.pageSize ≤ (data.drop c.pageSize).length := by
      rw [List.length_drop]
      omega
    unfold storePages putPages
    rw [hcodec]
    dsimp only
    -- the first of the pages, then the others
    have hwrite : Represents d c' (v.writePage d c' .mainDb (data.take c.pageSize) (i + 1)
        (i * c'.pageSize) true)
        (Function.update m i (some ⟨c'.key true, data.take c.pageSize⟩)) :=
      represents_writePage (hc.congr hs.symm) (h.settings hs) (hfirstlen.trans hps.symm)
        (hfirst (Nat.succ_pos n))
    have hframe := frame_writePage (d := d) hcodec .mainDb (data.take c.pageSize) (i + 1)
      (i * c'.pageSize) true
    rw [Codec.key_congr hs] at hwrite
    have hnext := ih (hv.congr hframe.settings) (hwrite.settings hs.symm) hrestlen
      fun _ => startsAt_succ i _
    rw [hps] at hnext ⊢
    rwa [Nat.succ_mul] at hnext

-- ---------------------------------------------------------------------------
-- Runs of operations
-- ---------------------------------------------------------------------------

/-- What SQLite asks of the file layer. -/
inductive FileOp where
  | read (k : FileKind) (count offset : Nat)
  | write (k : FileKind) (data : Bytes) (offset : Nat)
  | truncate (k : FileKind) (size : Nat)
  | pagerCodec (data : Bytes) (pgno : Nat)

/-- One operation. -/
def apply (d : Digests) (v : Vfs) : FileOp → Vfs
  | .read k count offset => (mcIoRead d v k count offset).2.2
  | .write k data offset => mcIoWrite d v k data offset
  | .truncate k size => mcIoTruncate v k size
  | .pagerCodec data pgno => (pagerCodec d v data pgno).2

/-- The pages after an operation. -/
def effect (ps : Nat) (key : Option PageCipher) (m : Pages) : FileOp → Pages
  | .write .mainDb data offset => putPages ps key (data.length / ps) m data (offset / ps)
  | .truncate .mainDb size => fun i => if i * ps + ps ≤ size then m i else none
  | _ => m

/-- A single page. -/
theorem effect_page {ps i : Nat} {key : Option PageCipher} {m : Pages} {data : Bytes}
    (hps : 0 < ps) (hlen : data.length = ps) : effect ps key m (.write .mainDb data (i * ps)) =
      Function.update m i (some ⟨key, data⟩) := by
  rw [effect, hlen, Nat.div_self hps, Nat.mul_div_cancel _ hps, putPages, putPages,
    List.take_of_length_le (by omega)]

/-- SQLite writes whole pages to a database, and the first one starts with its header. -/
def Whole (ps : Nat) : FileOp → Prop
  | .write .mainDb data offset => offset % ps = 0 ∧ data.length % ps = 0 ∧
      (offset = 0 → 0 < data.length → StartsAt 0 (data.take ps))
  | _ => True

/-- An operation keeps the codec. -/
theorem settings_apply (d : Digests) (v : Vfs) (op : FileOp) :
    (apply d v op).settings = v.settings := by
  cases op with
  | read k count offset => exact (readFrame_read d v k count offset).settings
  | write k data offset => exact (frame_write d v k data offset).settings
  | truncate k size => rfl
  | pagerCodec data pgno =>
    show (pagerCodec d v data pgno).2.settings = v.settings
    -- the pager's codec stores a page, which changes no settings
    unfold pagerCodec
    split
    · rename_i c hactive
      split_ifs
      · simp [settings, (codec_of_active hactive).1]
      · rfl
    · rfl

/-- An operation on whole pages does to what a file represents what `effect` says. -/
theorem represents_apply {m : Pages} {op : FileOp} (hc : c.Consistent)
    (henc : c.isEncrypted = true) (hv : v.Uses c) (h : Represents d c v m)
    (hop : Whole c.pageSize op) :
    Represents d c (apply d v op) (effect c.pageSize (c.key true) m op) := by
  cases op with
  | read k count offset => exact h.congr ((readFrame_read d v k count offset).file _)
  -- what the pager is handed is written to no file here
  | pagerCodec data pgno =>
    refine h.congr ?_
    show (((pagerCodec d v data pgno).2).files .mainDb).file = _
    unfold pagerCodec
    split
    · split_ifs <;> rfl
    · rfl
  | truncate k size =>
    by_cases hk : k = .mainDb
    -- the pages that end in front of the cut are kept
    · subst hk
      have hfile : ((apply d v (.truncate .mainDb size)).files .mainDb).file =
          xTruncate (v.files .mainDb).file size := by
        show ((mcIoTruncate v .mainDb size).files .mainDb).file = _
        rw [mcIoTruncate, setFile_self]
      unfold Represents
      rw [hfile]
      exact FileImage.Holds.truncate h size _
    · have heffect : effect c.pageSize (c.key true) m (.truncate k size) = m := by
        cases k <;> first | rfl | exact absurd rfl hk
      rw [heffect]
      refine h.congr (congrArg McFile.file ?_)
      exact (frame_setFile k _).files .mainDb (Ne.symm hk)
  | write k data offset =>
    by_cases hk : k = .mainDb
    · subst hk
      -- whole pages are stored one by one, from the first that begins at the offset
      obtain ⟨hoff, hlen, hfirst⟩ := hop
      obtain ⟨c', hcodec, hs⟩ := hv.exists_codec
      obtain ⟨hps, -, henc', -⟩ := Codec.fields_congr hs
      have hactive : v.active .mainDb = some c' :=
        active_of_codec hcodec (henc'.trans henc) (Or.inl rfl)
      have hdiv := Nat.div_mul_cancel (Nat.dvd_of_mod_eq_zero hoff)
      have hpages := represents_storePages (data.length / c.pageSize) (i := offset / c.pageSize)
        hc hv h (Nat.div_mul_le_self _ _) fun hpos => by
          rcases Nat.eq_zero_or_pos (offset / c.pageSize) with hzero | hsome
          · rw [hzero] at hdiv ⊢
            exact hfirst (by omega) (Nat.pos_of_div_pos hpos)
          · obtain ⟨i, hi⟩ := Nat.exists_eq_add_of_le' hsome
            rw [hi]
            exact startsAt_succ i _
      have hwrite : apply d v (.write .mainDb data offset) =
          storePages d (data.length / c.pageSize) v data (offset / c.pageSize + 1) offset := by
        show writeMainDb d v data offset = _
        unfold writeMainDb
        rw [hactive]
        dsimp only
        rw [hps, if_neg (by omega)]
      rw [hwrite]
      rwa [hdiv] at hpages
    · have heffect : effect c.pageSize (c.key true) m (.write k data offset) = m := by
        cases k <;> first | rfl | exact absurd rfl hk
      rw [heffect]
      exact h.congr (congrArg McFile.file ((frame_write d v k data offset).files .mainDb (Ne.symm hk)))

/-- The file represents the pages that were written, after every sequence of operations. -/
theorem represents_run {m : Pages} (hc : c.Consistent) (henc : c.isEncrypted = true)
    (ops : List FileOp) (hv : v.Uses c) (h : Represents d c v m)
    (hops : ∀ op ∈ ops, Whole c.pageSize op) :
    (ops.foldl (apply d) v).Uses c ∧
      Represents d c (ops.foldl (apply d) v) (ops.foldl (effect c.pageSize (c.key true)) m) := by
  induction ops generalizing v m with
  | nil => exact ⟨hv, h⟩
  | cons op ops ih =>
    obtain ⟨hop, hrest⟩ := List.forall_mem_cons.mp hops
    exact ih (hv.congr (settings_apply d v op)) (represents_apply hc henc hv h hop) hrest

-- ---------------------------------------------------------------------------
-- Reading pages
-- ---------------------------------------------------------------------------

variable {m : Pages} {page : Page} {i : Nat}

/-- A part that lies inside a file is read. -/
theorem xRead_of_le {file : Bytes} {count offset : Nat} (h : offset + count ≤ file.length) :
    xRead file count offset = (.ok, slice file offset count) := if_pos h

/-- Loading one page is a load. -/
theorem loadPages_one {buffer : Bytes} (h : buffer.length = c.pageSize) (pageNo : Nat) :
    loadPages d 1 c buffer pageNo = c.load d buffer pageNo := by
  simp [loadPages, ← h]

/-- The place of a page as it stands in the file. -/
theorem xRead_page (h : Represents d c v m) (hi : m i = some page) :
    xRead (v.files .mainDb).file c.pageSize (i * c.pageSize) =
        (.ok, slice (v.files .mainDb).file (i * c.pageSize) c.pageSize) ∧
      Sealed d page.key c.reserved (i + 1) page.data
        (slice (v.files .mainDb).file (i * c.pageSize) c.pageSize) := by
  obtain ⟨hin, hsealed⟩ := h i page hi
  exact ⟨xRead_of_le hin, hsealed⟩

/-- A page under the read key is read back. -/
theorem read_page (hc : c.Consistent) (henc : c.isEncrypted = true) (hv : v.Uses c)
    (h : Represents d c v m) (hi : m i = some page) (hkey : page.key = c.key false) :
    Restores (c.pageSize - c.reserved) page.data
      ((mcIoRead d v .mainDb c.pageSize (i * c.pageSize)).1,
        (mcIoRead d v .mainDb c.pageSize (i * c.pageSize)).2.1) := by
  obtain ⟨c', hcodec, hs⟩ := hv.exists_codec
  obtain ⟨hps, hres, henc', -⟩ := Codec.fields_congr hs
  have hge := hc.pageSize_ge
  obtain ⟨hread, hsealed⟩ := xRead_page h hi
  have hlen : page.data.length = c.pageSize := by
    have hin := (h i page hi).1
    rw [← hsealed.length, length_slice hin]
  rw [hkey, ← Codec.key_congr hs, ← hres] at hsealed
  obtain ⟨hload, -⟩ := Codec.load_of_sealed (hc.congr hs.symm) hsealed
  rw [hlen, hres] at hload
  have hactive : v.active .mainDb = some c' :=
    active_of_codec hcodec (henc'.trans henc) (Or.inl rfl)
  -- the salt is asked for by a read of sixteen bytes, which is no page
  have hnot : ¬(i * c.pageSize = 0 ∧ c.pageSize = 16) := by omega
  unfold mcIoRead
  rw [hread]
  dsimp only
  rw [if_neg (by decide), readMainDb, if_neg hnot, hactive]
  dsimp only
  rw [hps, Nat.mul_mod_left, Nat.mod_self, if_neg (by simp), Nat.div_self (by omega),
    Nat.mul_div_cancel _ (by omega), if_neg (by decide)]
  rw [loadPages_one (by rw [length_slice (h i page hi).1, hps])]
  exact hload

/-- A part of a page that is not reserved is read as it was written, but for the first 16 bytes
of the file on their own. -/
theorem read_part {o count : Nat} (hc : c.Consistent) (henc : c.isEncrypted = true)
    (hv : v.Uses c) (h : Represents d c v m) (hi : m i = some page) (hkey : page.key = c.key false)
    (hpos : 0 < count) (hpart : o + count ≤ c.pageSize - c.reserved)
    (hsalt : ¬(i = 0 ∧ o = 0 ∧ count = 16)) :
    (mcIoRead d v .mainDb count (i * c.pageSize + o)).1 = .ok ∧
      (mcIoRead d v .mainDb count (i * c.pageSize + o)).2.1 = slice page.data o count := by
  obtain ⟨c', hcodec, hs⟩ := hv.exists_codec
  obtain ⟨hps, hres, henc', -⟩ := Codec.fields_congr hs
  have hge := hc.pageSize_ge
  obtain ⟨hread, hsealed⟩ := xRead_page h hi
  have hin := (h i page hi).1
  dsimp only at hin
  have hlen : page.data.length = c.pageSize := by rw [← hsealed.length, length_slice hin]
  by_cases hall : o = 0 ∧ count = c.pageSize
  · -- the page as a whole
    obtain ⟨rfl, rfl⟩ := hall
    have hpage := read_page hc henc hv h hi hkey
    have hzero : c.pageSize - c.reserved = c.pageSize := by omega
    rw [hzero] at hpage
    have htake := hpage.take
    have hsame := hpage.length
    dsimp only at htake hsame
    rw [List.take_of_length_le (by omega), List.take_of_length_le (by omega)] at htake
    rw [Nat.add_zero, slice_zero_eq_take, List.take_of_length_le (by omega)]
    exact ⟨hpage.rc, htake⟩
  -- a part of a page: the whole page is read, and the part is taken out of it
  · rw [hkey, ← Codec.key_congr hs, ← hres] at hsealed
    obtain ⟨hload, -⟩ := Codec.load_of_sealed (hc.congr hs.symm) hsealed
    rw [hlen, hres] at hload
    have hactive : v.active .mainDb = some c' :=
      active_of_codec hcodec (henc'.trans henc) (Or.inl rfl)
    have hmod : (i * c.pageSize + o) % c.pageSize = o := by
      rw [Nat.add_comm, Nat.add_mul_mod_self_right, Nat.mod_eq_of_lt (by omega)]
    have hnot : ¬(i * c.pageSize + o = 0 ∧ count = 16) := by
      rintro ⟨hzero, h16⟩
      have hmul : i * c.pageSize = 0 := by omega
      rcases Nat.mul_eq_zero.mp hmul with hfirst | hps0
      · exact hsalt ⟨hfirst, by omega, h16⟩
      · omega
    have hpartial : o ≠ 0 ∨ count % c.pageSize ≠ 0 := by
      by_cases ho : o = 0
      · right
        rw [Nat.mod_eq_of_lt (by omega)]
        omega
      · exact Or.inl ho
    unfold mcIoRead
    rw [xRead_of_le (by omega)]
    dsimp only
    rw [if_neg (by decide), readMainDb, if_neg hnot, hactive]
    dsimp only
    rw [hps, hmod, if_pos hpartial, Nat.add_sub_cancel, hread]
    dsimp only
    rw [if_neg (by decide), Nat.mul_div_cancel _ (by omega)]
    exact ⟨hload.rc, slice_eq_of_take_eq hload.take hpart⟩

-- ---------------------------------------------------------------------------
-- Without a codec
-- ---------------------------------------------------------------------------

/-- The bytes at the place of a page are its content. -/
def Plain (ps : Nat) (v : Vfs) (m : Pages) : Prop :=
  FileImage.Holds (fun i => i * ps) ps (fun _ a bytes => a.data = bytes) (v.files .mainDb).file m

/-- Writing pages that are not encrypted. -/
theorem holds_putPages {ps n : Nat} {file data : Bytes} {key : Option PageCipher}
    (h : FileImage.Holds (fun i => i * ps) ps (fun _ a bytes => a.data = bytes) file m)
    (hlen : data.length = n * ps) :
    FileImage.Holds (fun i => i * ps) ps (fun _ (a : Page) bytes => a.data = bytes)
      (FileImage.write file data (i * ps)) (putPages ps key n m data i) := by
  induction n generalizing file m data i with
  | zero =>
    rw [Nat.zero_mul] at hlen
    -- no page is left to write, and nothing is written over the pages
    refine h.write_outside fun j b _ => ?_
    rw [hlen]
    by_cases hji : j = i
    · subst hji
      exact Or.inr (Nat.le_refl _)
    · have hdisj := pages_disjoint ps hji
      omega
  | succ n ih =>
    -- the first page is put at its place, the others behind it
    rw [Nat.succ_mul] at hlen
    have hfirst : (data.take ps).length = ps := by
      rw [List.length_take]
      omega
    have hrest : (data.drop ps).length = n * ps := by
      rw [List.length_drop]
      omega
    have hone : FileImage.Holds (fun i => i * ps) ps (fun _ (a : Page) bytes => a.data = bytes)
        (FileImage.write file (data.take ps) (i * ps))
        (Function.update m i (some ⟨key, data.take ps⟩)) :=
      FileImage.Holds.write h hfirst rfl fun j b _ hji => pages_disjoint ps hji
    have hall := ih (i := i + 1) hone hrest
    rw [← List.take_append_drop ps data, FileImage.write_append, hfirst, List.take_append_drop,
      putPages]
    rwa [Nat.succ_mul] at hall

/-- An operation on whole pages of a file that is not encrypted. -/
theorem plain_apply {ps : Nat} {op : FileOp} (key : Option PageCipher)
    (hv : v.codec = none) (h : Plain ps v m) (hop : Whole ps op) :
    Plain ps (apply d v op) (effect ps key m op) := by
  cases op with
  | read k count offset =>
    -- without a codec a read changes nothing, and a write writes what it was given
    unfold Plain
    rw [show apply d v (.read k count offset) = (mcIoRead d v k count offset).2.2 from rfl,
      (readFrame_read d v k count offset).file]
    exact h
  | pagerCodec data pgno =>
    have hnone : v.active .mainDb = none := by simp [active, hv]
    have hsame : apply d v (.pagerCodec data pgno) = v := by
      show (pagerCodec d v data pgno).2 = v
      rw [pagerCodec, hnone]
    rw [hsame]
    exact h
  | truncate k size =>
    by_cases hk : k = .mainDb
    · subst hk
      have hfile : ((apply d v (.truncate .mainDb size)).files .mainDb).file =
          xTruncate (v.files .mainDb).file size := by
        show ((mcIoTruncate v .mainDb size).files .mainDb).file = _
        rw [mcIoTruncate, setFile_self]
      unfold Plain
      rw [hfile]
      exact FileImage.Holds.truncate h size _
    · have heffect : effect ps key m (.truncate k size) = m := by
        cases k <;> first | rfl | exact absurd rfl hk
      have hfile := (frame_setFile (v := v) k
        { v.files k with file := xTruncate (v.files k).file size }).files .mainDb (Ne.symm hk)
      rw [heffect]
      unfold Plain
      rwa [show apply d v (.truncate k size) = mcIoTruncate v k size from rfl, mcIoTruncate, hfile]
  | write k data offset =>
    by_cases hk : k = .mainDb
    · subst hk
      obtain ⟨hoff, hlen, -⟩ := hop
      have hnone : v.active .mainDb = none := by simp [active, hv]
      have hdiv := Nat.div_mul_cancel (Nat.dvd_of_mod_eq_zero hoff)
      have hcount := Nat.div_mul_cancel (Nat.dvd_of_mod_eq_zero hlen)
      have hpages : FileImage.Holds (fun i => i * ps) ps (fun _ (a : Page) bytes => a.data = bytes)
          (FileImage.write (v.files .mainDb).file data (offset / ps * ps))
          (putPages ps key (data.length / ps) m data (offset / ps)) :=
        holds_putPages h hcount.symm
      have hfile : ((apply d v (.write .mainDb data offset)).files .mainDb).file =
          FileImage.write (v.files .mainDb).file data offset := by
        show ((writeMainDb d v data offset).files .mainDb).file = _
        rw [writeMainDb, hnone]
        dsimp only
        rw [writeReal, setFile_self]
        rfl
      unfold Plain
      rw [hfile]
      rwa [hdiv] at hpages
    · have heffect : effect ps key m (.write k data offset) = m := by
        cases k <;> first | rfl | exact absurd rfl hk
      have hfile := (frame_write d v k data offset).files .mainDb (Ne.symm hk)
      rw [heffect]
      unfold Plain
      rwa [show apply d v (.write k data offset) = mcIoWrite d v k data offset from rfl, hfile]

/-- A run of operations on whole pages of a file that is not encrypted. -/
theorem plain_run {ps : Nat} (key : Option PageCipher) (ops : List FileOp)
    (hv : v.codec = none) (h : Plain ps v m) (hops : ∀ op ∈ ops, Whole ps op) :
    (ops.foldl (apply d) v).codec = none ∧
      Plain ps (ops.foldl (apply d) v) (ops.foldl (effect ps key) m) := by
  induction ops generalizing v m with
  | nil => exact ⟨hv, h⟩
  | cons op ops ih =>
    obtain ⟨hop, hrest⟩ := List.forall_mem_cons.mp hops
    have hnone : (apply d v op).settings = none := by
      rw [settings_apply, settings, hv]
      rfl
    exact ih (Option.map_eq_none_iff.mp hnone) (plain_apply key hv h hop) hrest

/-- Without a codec the file is read as it is. -/
theorem read_plain {ps o count : Nat} (hv : v.codec = none) (h : Plain ps v m)
    (hi : m i = some page) (hpart : o + count ≤ ps) :
    (mcIoRead d v .mainDb count (i * ps + o)).1 = .ok ∧
      (mcIoRead d v .mainDb count (i * ps + o)).2.1 = slice page.data o count := by
  obtain ⟨hin, hdata⟩ := h i page hi
  dsimp only at hin hdata
  have hnone : v.active .mainDb = none := by simp [active, hv]
  have hslice : slice (v.files .mainDb).file (i * ps + o) count = slice page.data o count := by
    rw [hdata, slice_slice hpart]
  unfold mcIoRead
  rw [xRead_of_le (by omega)]
  dsimp only
  rw [if_neg (by decide), readMainDb, hnone]
  dsimp only
  split <;> exact ⟨rfl, hslice⟩

/-- The pages that are known were all written under the key. -/
theorem key_of_run {ps : Nat} {key : Option PageCipher} (ops : List FileOp)
    (h : ∀ i page, m i = some page → page.key = key)
    (hi : ops.foldl (effect ps key) m i = some page) : page.key = key := by
  -- pages that are written have the key, and no other page changes its own
  have hput (n : Nat) : ∀ (m : Pages) (data : Bytes) (i : Nat),
      (∀ i page, m i = some page → page.key = key) →
        ∀ j page, putPages ps key n m data i j = some page → page.key = key := by
    induction n with
    | zero => exact fun m data i h => h
    | succ n ih =>
      intro m data i h
      refine ih _ _ _ fun j page hj => ?_
      by_cases hji : j = i
      · subst hji
        rw [Function.update_self] at hj
        cases hj
        rfl
      · rw [Function.update_of_ne hji] at hj
        exact h j page hj
  induction ops generalizing m with
  | nil => exact h i page hi
  | cons op ops ih =>
    refine ih (fun j page hj => ?_) hi
    cases op with
    | write k data offset =>
      cases k <;> first | exact h j page hj | exact hput _ m data _ h j page hj
    | truncate k size =>
      cases k <;> first
        | exact h j page hj
        | (have hj' : (if j * ps + ps ≤ size then m j else none) = some page := hj
           split at hj'
           · exact h j page hj'
           · cases hj')
    | read k count offset => exact h j page hj
    | pagerCodec data pgno => exact h j page hj

end Vfs

end Native

end SqliteMc
