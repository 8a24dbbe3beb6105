import SqliteMc.Model.Storage

/-!
# Encrypted storage

What the encryption of a database changes for the layers above it, and what reaches the disk.

* `transparent_run` — after any operations a database reads as it would without encryption.
* `encrypted_run` — what stands in its file is the encryption of what was written.
* `write_refused_iff` — when a page would be written in plain text.
-/

namespace SqliteMc

namespace Native

open Buffer ChaCha20

namespace Vfs

/-- The pages after operations on a database of which nothing is known. -/
def written (ps : Nat) (key : Option PageCipher) (ops : List FileOp) : Pages :=
  ops.foldl (effect ps key) fun _ => none

/-! ## A connection under RC4 -/

/-- The codec of a database with pages of 512 bytes. -/
def rc4Codec : Codec := Codec.attach 512 1 0 (.rc4 ⟨1, 512, [0x2a]⟩)

/-- A page is written and read. -/
def rc4Ops : List FileOp :=
  [.write .mainDb (zeros 512) (1 * 512), .read .mainDb 512 512]

theorem pageSize_rc4Codec : rc4Codec.pageSize = 512 := rfl

theorem whole_rc4Ops : ∀ op ∈ rc4Ops, Whole rc4Codec.pageSize op := by
  refine List.forall_mem_cons.mpr ⟨⟨rfl, ?_, fun h => absurd h (by decide)⟩, ?_⟩
  · rw [FileImage.length_zeros, pageSize_rc4Codec]
  · exact List.forall_mem_cons.mpr ⟨trivial, by simp⟩

/-- The second page was written last, with zeros. -/
theorem written_rc4Ops : written rc4Codec.pageSize (rc4Codec.key true) rc4Ops 1 =
    some ⟨rc4Codec.key true, zeros 512⟩ := by
  rw [pageSize_rc4Codec]
  simp only [written, rc4Ops, List.foldl_cons, List.foldl_nil]
  rw [effect_page (by decide) (FileImage.length_zeros 512)]
  simp [effect]

/-! ## Reading and writing -/

/--
**Encryption is transparent.** After any sequence of operations on the files of a connection, every
part of every page that was written is read as it would be by a connection without a codec that
made the same operations: but for the reserved bytes, and for the first 16 bytes when they are
read on their own.
-/
theorem transparent_run (d : Digests) {v : Vfs} {c : Codec} {ops : List FileOp} {page : Page}
    {i o count : Nat} (hv : v.codec = some c) (hc : c.AtRest) (hsettled : c.Settled)
    (hops : ∀ op ∈ ops, Whole c.pageSize op) (hi : written c.pageSize (c.key true) ops i = some page)
    (hpos : 0 < count) (hpart : o + count ≤ c.pageSize - c.reserved)
    (hsalt : ¬(i = 0 ∧ o = 0 ∧ count = 16)) :
    let offset := i * c.pageSize + o
    let encrypted := mcIoRead d (ops.foldl (apply d) v) .mainDb count offset
    let plain := mcIoRead d (ops.foldl (apply d) { v with codec := none }) .mainDb count offset
    encrypted.1 = .ok ∧ plain.1 = .ok ∧ encrypted.2.1 = plain.2.1 := by
  have huses : v.Uses c := congrArg (Option.map Codec.settings) hv
  obtain ⟨hrun, hrep⟩ := represents_run (d := d) hc.toConsistent hc.isEncrypted ops huses
    (FileImage.holds_none _) hops
  -- every page that was written has the codec's key
  have hkey : page.key = c.key false :=
    (key_of_run ops (fun j page hj => by cases hj) hi).trans hsettled
  obtain ⟨hok, hdata⟩ :=
    read_part hc.toConsistent hc.isEncrypted hrun hrep hi hkey hpos hpart hsalt
  -- the same run without a codec, which keeps what was written
  obtain ⟨hnone, hplain⟩ := plain_run (d := d) (c.key true) (v := { v with codec := none }) ops rfl
    (FileImage.holds_none _) hops
  have hin : o + count ≤ c.pageSize := by omega
  obtain ⟨hok', hdata'⟩ := read_plain (d := d) hnone hplain hi hin
  exact ⟨hok, hok', hdata.trans hdata'.symm⟩

/-- A page written under RC4, and read from its byte 7 on. -/
theorem transparent_run_rc4 :
    let v : Vfs := ⟨some rc4Codec, fun _ => ⟨[], 0, true⟩, default⟩
    let offset := 1 * rc4Codec.pageSize + 7
    let encrypted := mcIoRead default (rc4Ops.foldl (apply default) v) .mainDb 100 offset
    let plain := mcIoRead default (rc4Ops.foldl (apply default) { v with codec := none }) .mainDb
      100 offset
    encrypted.1 = .ok ∧ plain.1 = .ok ∧ encrypted.2.1 = plain.2.1 := by
  have hrest : rc4Codec.AtRest := (Codec.attach_spec (Nat.le_refl 512)).1
  have hpart : 7 + 100 ≤ rc4Codec.pageSize - rc4Codec.reserved := by decide
  exact transparent_run default rfl hrest rfl whole_rc4Ops written_rc4Ops (by decide) hpart
    (by decide)

/--
**No page reaches the file unencrypted.** After any sequence of operations, what stands at the
place of every page that was written is what the cipher of the connection makes of it.
-/
theorem encrypted_run (d : Digests) {v : Vfs} {c : Codec} {ops : List FileOp} {page : Page} {i : Nat}
    (hv : v.codec = some c) (hc : c.AtRest) (hsettled : c.Settled)
    (hops : ∀ op ∈ ops, Whole c.pageSize op)
    (hi : written c.pageSize (c.key true) ops i = some page) :
    ∃ cipher g g', c.readCipher = some cipher ∧
      cipher.encryptPage d (i + 1) page.data c.reserved g = (.ok, slice
        ((ops.foldl (apply d) v).files .mainDb).file (i * c.pageSize) c.pageSize, g') := by
  have huses : v.Uses c := congrArg (Option.map Codec.settings) hv
  obtain ⟨-, hrep⟩ := represents_run (d := d) hc.toConsistent hc.isEncrypted ops huses
    (FileImage.holds_none _) hops
  -- the run wrote this page under the write key, which is the read key
  have hkey : page.key = c.key false :=
    (key_of_run ops (fun j page hj => by cases hj) hi).trans hsettled
  obtain ⟨cipher, hcipher, hread, -⟩ : ∃ cipher, c.cipherFor false = some cipher ∧
      c.key false = some cipher ∧ cipher.Suits c.reserved :=
    hc.key_eq_some hc.isEncrypted hc.hasReadCipher
  have hsealed := (hrep i page hi).2.encrypted
  rw [hkey, hread] at hsealed
  obtain ⟨g, g', hbytes⟩ := hsealed
  exact ⟨cipher, g, g', hcipher, hbytes⟩

/-- The page that was written under RC4. -/
theorem encrypted_run_rc4 :
    let v : Vfs := ⟨some rc4Codec, fun _ => ⟨[], 0, true⟩, default⟩
    ∃ cipher g g', rc4Codec.readCipher = some cipher ∧
      cipher.encryptPage default (1 + 1) (zeros 512) rc4Codec.reserved g = (.ok, slice
        ((rc4Ops.foldl (apply default) v).files .mainDb).file (1 * rc4Codec.pageSize)
        rc4Codec.pageSize, g') := by
  intro v
  have hrest : rc4Codec.AtRest := (Codec.attach_spec (Nat.le_refl 512)).1
  have hrun := encrypted_run (v := v) default rfl hrest rfl whole_rc4Ops written_rc4Ops
  exact hrun

/-- One page written to the database, and what is found at its place. -/
theorem write_page_eq {d : Digests} {v : Vfs} {c : Codec} {data : Bytes} (i : Nat)
    (hv : v.codec = some c) (henc : c.isEncrypted = true) (hps : 0 < c.pageSize)
    (hlen : data.length = c.pageSize) : mcIoWrite d v .mainDb data (i * c.pageSize) =
      v.writePage d c .mainDb data (i + 1) (i * c.pageSize) true := by
  have hactive : v.active .mainDb = some c := active_of_codec hv henc (Or.inl rfl)
  show writeMainDb d v data (i * c.pageSize) = _
  unfold writeMainDb
  rw [hactive]
  dsimp only
  rw [hlen, Nat.mul_mod_left, Nat.mod_self, if_neg (by simp), Nat.div_self hps,
    Nat.mul_div_cancel _ hps, storePages, hv]
  dsimp only
  rw [storePages, List.take_of_length_le (by omega)]

/--
**A refused page is written in plain text.** The result of the codec is not looked at by the file
layer. A page whose reserved bytes do not suit the cipher is found in the database file as it is,
and the error is reported to the pager only; in every other case there is no error.
-/
theorem write_refused_iff (d : Digests) {v : Vfs} {c : Codec} {cipher : PageCipher} {data : Bytes}
    (i : Nat) (hv : v.codec = some c) (henc : c.isEncrypted = true)
    (hhas : c.hasWriteCipher = true) (hcipher : c.writeCipher = some cipher)
    (hps : 0 < c.pageSize) (hlen : data.length = c.pageSize) :
    let v' := mcIoWrite d v .mainDb data (i * c.pageSize)
    let bytes := slice (v'.files .mainDb).file (i * c.pageSize) c.pageSize
    (v'.codec.map Codec.lastError = some .ok ↔ cipher.Suits (c.reservedFor true)) ∧
      (¬ cipher.Suits (c.reservedFor true) →
        bytes = data ∧ v'.codec.map Codec.pagerError = some .corrupt) := by
  intro v' bytes
  have hv' : v' = v.writePage d c .mainDb data (i + 1) (i * c.pageSize) true :=
    write_page_eq i hv henc hps hlen
  have hcodec : v'.codec = some (c.store d data (i + 1) true v.rng).2.1 := by
    rw [hv']
    rfl
  have hside : (if true then c.hasWriteCipher else c.hasReadCipher) = true := hhas
  -- a cipher that suits the page stores it; one that does not lets nothing be stored
  by_cases hsuits : cipher.Suits (c.reservedFor true)
  · rw [Codec.store_of_suits henc hside hcipher hsuits] at hcodec
    refine ⟨iff_of_true ?_ hsuits, fun hnot => absurd hsuits hnot⟩
    rw [hcodec]
    rfl
  · have hstore := Codec.store_of_not_suits (d := d) henc hside hcipher hsuits data (i + 1) v.rng
    rw [hstore] at hcodec
    refine ⟨iff_of_false ?_ hsuits, fun _ => ⟨?_, ?_⟩⟩
    · rw [hcodec]
      exact fun h => by cases h
    · have hfile : (v'.files .mainDb).file =
          FileImage.write (v.files .mainDb).file data (i * c.pageSize) := by
        rw [hv', writePage, writeReal, setFile_self, hstore]
        rfl
      -- the bytes of the page are the plain ones
      show slice (v'.files .mainDb).file (i * c.pageSize) c.pageSize = data
      rw [hfile, ← hlen, FileImage.slice_write_self]
    · rw [hcodec]
      rfl

/-- A page without reserved bytes under ChaCha20 of the legacy scheme, which asks for 32. -/
theorem write_refused_iff_chacha20 :
    let cipher : PageCipher := .chacha20 ⟨1, 512, 1, 0, [], zeros 16, rfl, Nat.zero_le 100⟩
    let c := { Codec.attach 512 1 0 cipher with reserved := 0 }
    let v : Vfs := ⟨some c, fun _ => ⟨[], 0, true⟩, default⟩
    let v' := mcIoWrite default v .mainDb (zeros 512) (1 * c.pageSize)
    let bytes := slice (v'.files .mainDb).file (1 * c.pageSize) c.pageSize
    (v'.codec.map Codec.lastError = some .ok ↔ cipher.Suits (c.reservedFor true)) ∧
      (¬ cipher.Suits (c.reservedFor true) →
        bytes = zeros 512 ∧ v'.codec.map Codec.pagerError = some .corrupt) := by
  intro cipher c v
  -- the cipher reserves 32 bytes, of which the page has none
  have hlen : (zeros 512).length = c.pageSize := List.length_replicate
  have hwrite := write_refused_iff (v := v) default 1 rfl rfl rfl rfl (by decide : 0 < 512) hlen
  exact hwrite

end Vfs

end Native

end SqliteMc
