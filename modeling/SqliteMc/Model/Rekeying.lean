import SqliteMc.Model.CipherSetup
import SqliteMc.Model.PageHeader

/-!
# A file is rekeyed and opened again

`sqlite3_rekey_v2` with a password, from the parameters in force to the pages in the file, and
`sqlite3mcCodecAttach` on the connection that opens the file afterwards.

* `rekeyV2_spec`: the codec of a rekeying writes under the new cipher, with the bytes that this
  one reserves.
* `reads_rewritten`: a cipher that decrypts as the new one reads the pages back.
* `header_rewritten`: the salt of the new key is what the file begins with, unless the header is
  kept in plain text.
-/

namespace SqliteMc

namespace Native

open Buffer ChaCha20

-- ---------------------------------------------------------------------------
-- The pages of a database
-- ---------------------------------------------------------------------------

/-- `sqlite3BtreeSetPageSize`: a page of 512 bytes is too small for more than 32 reserved ones. -/
def btreePageSize (pageSize reserved : Nat) : Nat :=
  if 32 < reserved ∧ pageSize = 512 then 1024 else pageSize

/-- `WX_PAGER_MJ_PGNO`: the page of the lock bytes, which is never written. -/
def mjPgno (pageSize : Nat) : Nat := 0x40000000 / pageSize + 1

/-- The content of a database: pages of one size, of which the first begins as a database does. -/
structure Database (pageSize : Nat) (pages : List Bytes) : Prop where
  ne_nil : pages ≠ []
  length : ∀ {i : Nat} {page : Bytes}, pages[i]? = some page → page.length = pageSize
  first : ∀ {i : Nat} {page : Bytes}, pages[i]? = some page → PageCipher.StartsDatabase (i + 1) page

/-- The page sizes of SQLite. -/
def PageSize (n : Nat) : Prop := ∃ k, 9 ≤ k ∧ k ≤ 16 ∧ n = 2 ^ k

/-- SQLite's page sizes are between 512 and 65536. -/
theorem PageSize.bounds {n : Nat} (h : PageSize n) : 512 ≤ n ∧ n ≤ 65536 := by
  obtain ⟨k, h9, h16, rfl⟩ := h
  exact ⟨Nat.pow_le_pow_right (n := 2) (by decide) h9,
    Nat.pow_le_pow_right (n := 2) (by decide) h16⟩

/-- Whole blocks fit. -/
theorem PageSize.mod_sixteen {n : Nat} (h : PageSize n) : n % 16 = 0 := by
  obtain ⟨k, h9, -, rfl⟩ := h
  exact Nat.mod_eq_zero_of_dvd (Nat.pow_dvd_pow 2 (show 4 ≤ k by omega))

/-- The page size a b-tree comes to is a page size. -/
theorem PageSize.btreePageSize {n : Nat} (h : PageSize n) (reserved : Nat) :
    PageSize (btreePageSize n reserved) := by
  unfold Native.btreePageSize
  split
  · exact ⟨10, by decide, by decide, rfl⟩
  · exact h

/-- The first pages are not the one of the lock bytes. -/
theorem lt_mjPgno {pageSize : Nat} (h : PageSize pageSize) : 2 < mjPgno pageSize := by
  obtain ⟨h512, h65536⟩ := h.bounds
  have hdiv : 2 ≤ 0x40000000 / pageSize := (Nat.le_div_iff_mul_le (by omega)).mpr (by omega)
  exact Nat.lt_succ_of_le hdiv

/-- Whether the first page shows the page size does not depend on the key. -/
@[simp] theorem PageCipher.showsPageSize_generateKey (d : Digests) (c : PageCipher)
    (password : Bytes) (rekey : Bool) (cipherSalt : Option Salt) (g : Rng) :
    (c.generateKey d password rekey cipherSalt g).1.showsPageSize = c.showsPageSize := by
  cases c with
  | aes128 c =>
    simp only [generateKey, showsPageSize, getLegacy, AES128Cipher.generateKey]
    exact decide_eq_decide.mpr Iff.rfl
  | aes256 c =>
    simp only [generateKey, showsPageSize, getLegacy, AES256Cipher.generateKey]
    exact decide_eq_decide.mpr Iff.rfl
  | _ => simp only [generateKey, showsPageSize, getLegacy, ChaCha20Cipher.generateKey,
      SQLCipherCipher.generateKey]

namespace Codec

-- ---------------------------------------------------------------------------
-- Rekeying
-- ---------------------------------------------------------------------------

/-- What `sqlite3mcCodecSetup` and `sqlite3mcSetupWriteCipher` make of the parameters in force. -/
def NewKey.make (d : Digests) (k : Engine.Codec) (password : Bytes) (rekey : Bool)
    (cipherSalt : Option Salt) (g : Rng) : Option NewKey :=
  (PageCipher.allocate k.cipher).map fun cipher =>
    ⟨k.hmacCheck.toNat, k.walLegacy.toNat, (cipher.generateKey d password rekey cipherSalt g).1⟩

/-- `sqlite3_rekey_v2` up to the rewriting of the pages: the codec that this is done with. A
database keeps its page size, so a cipher that asks for another one is refused; without a password
the database is decrypted. -/
def rekeyV2 (d : Digests) (k : Engine.Codec) (nPagesize nReserved : Nat) (codec : Option Codec)
    (password : Bytes) (g : Rng) : Option Codec :=
  if password = [] then beginRekey nPagesize nReserved codec none
  else
    (NewKey.make d k password true none g).bind fun key =>
      let nPagesizeWriteCipher := key.cipher.getPageSize
      if nPagesizeWriteCipher = 0 ∨ nPagesize = nPagesizeWriteCipher then
        beginRekey nPagesize nReserved codec (some key)
      else none

/-- The pages in the file when all were written under the new key, in any order and with whatever
random bytes. -/
structure Rewritten (d : Digests) (c : Codec) (pageSize : Nat) (pages file : List Bytes) : Prop where
  length : file.length = pages.length
  stored : ∀ {i : Nat} {page : Bytes}, pages[i]? = some page → i + 1 ≠ mjPgno pageSize →
    ∃ g, file[i]? = some (c.store d page (i + 1) true g).1

-- ---------------------------------------------------------------------------
-- Opening the file
-- ---------------------------------------------------------------------------

/-- The page size of a new connection to a database whose pages have `pageSize` bytes: the one that
the cipher asks for in `mcAdjustBtree`, else the one that stands in the file. Where it is encrypted
there, SQLite comes to `guess` by itself: its default, or what it finds in a first page of that size. -/
def openedPageSize (cipher : PageCipher) (pageSize guess : Nat) : Nat :=
  if 0 < cipher.getPageSize then btreePageSize cipher.getPageSize cipher.getReserved
  else if cipher.showsPageSize then pageSize
  else guess

/-- `sqlite3mcCodecAttach` on a new connection: the file says what the salt is. -/
def attachKey (d : Digests) (k : Engine.Codec) (pageSize guess : Nat) (password : Bytes)
    (file : List Bytes) (g : Rng) : Option Codec :=
  (NewKey.make d k password false (readDatabaseHeader file.flatten) g).map fun key =>
    attach (openedPageSize key.cipher pageSize guess) key.hmacCheck key.walLegacy key.cipher

/-- The connection works with the pages of the database, and reads what they were. -/
structure Reads (d : Digests) (c : Codec) (pageSize : Nat) (pages file : List Bytes) : Prop where
  pageSize_eq : c.pageSize = pageSize
  restores : ∀ {i : Nat} {page : Bytes}, pages[i]? = some page → i + 1 ≠ mjPgno pageSize →
    ∃ bytes, file[i]? = some bytes ∧ Restores (pageSize - c.reserved) page
      ((c.load d bytes (i + 1)).2.lastError, (c.load d bytes (i + 1)).1)

/-- A rekeying with the parameters `k` is not refused on a connection with this codec and page size,
and what it writes is read by a new connection with the parameters `k₀` and the same password. -/
def Reopens (k k₀ : Engine.Codec) (codec : Option Codec) (nPagesize nReserved guess : Nat)
    (password : Bytes) : Prop :=
  ∀ (d : Digests) (g : Rng), ∃ c, rekeyV2 d k nPagesize nReserved codec password g = some c ∧
    ∀ pages file : List Bytes,
      let pageSize := btreePageSize nPagesize c.reservedWriteCipher.toNat
      Database pageSize pages → Rewritten d c pageSize pages file → ∀ g', ∃ c',
        attachKey d k₀ pageSize guess password file g' = some c' ∧ Reads d c' pageSize pages file

-- ---------------------------------------------------------------------------
-- The write side
-- ---------------------------------------------------------------------------

variable {d : Digests} {w w' : PageCipher}

/-- The codec writes under this cipher, with the bytes that it reserves. -/
structure Writes (c : Codec) (w : PageCipher) : Prop where
  isEncrypted : c.isEncrypted = true
  hasWriteCipher : c.hasWriteCipher = true
  writeCipher : c.writeCipher = some w
  reserved : c.reservedFor true = w.getReserved

/-- A page that is written under a new key is encrypted with it, and its reserved bytes are the
cipher's. -/
theorem Writes.store {c : Codec} (h : c.Writes w) (data : Bytes) (page : Nat) (g : Rng) :
    (c.store d data page true g).1 = (w.encryptPage d page data w.getReserved g).2.1 := by
  have hcipher : c.cipherFor true = some w := h.writeCipher
  have henc : c.encrypt d page data true g = w.encryptPage d page data w.getReserved g := by
    rw [encrypt, hcipher, h.reserved]
  unfold Codec.store
  dsimp only
  rw [if_neg (by simp [h.isEncrypted]), if_neg (by simp [h.hasWriteCipher]), henc]
  split <;> rfl

/-- The reserved bytes of the new key are those of its cipher. -/
theorem Writes.reservedWriteCipher {c : Codec} (h : c.Writes w) :
    c.reservedWriteCipher.toNat = w.getReserved := by
  rw [Codec.reservedWriteCipher, h.hasWriteCipher, h.writeCipher]
  rfl

/-- A side with a number of its own. -/
theorem sideReserved_natCast (own reserved : Nat) : sideReserved own reserved = own :=
  if_pos (Int.natCast_nonneg own)

/-- Whether the pages are rewritten in place or by `VACUUM`, they are written under the new key. -/
theorem writes_beginRekey {codec : Option Codec} {nPagesize nReserved : Nat} (key : NewKey)
    (h : AllAtRest codec) (hreserved : ∀ c, codec = some c → c.reserved = nReserved) :
    ∃ c, beginRekey nPagesize nReserved codec (some key) = some c ∧ c.Writes key.cipher := by
  cases codec with
  | none =>
    refine ⟨_, rfl, ?_⟩
    unfold setReserved
    split
    · exact ⟨rfl, rfl, rfl, rfl⟩
    · exact ⟨rfl, rfl, rfl, sideReserved_natCast key.cipher.getReserved _⟩
  | some c =>
    have hc := h c rfl
    refine ⟨_, beginRekey_some key hc.isEncrypted, ?_⟩
    unfold setReserved
    split
    · rename_i hsame
      refine ⟨rfl, rfl, rfl, ?_⟩
      -- the side has no number of its own
      have hown : sideReserved c.writeReserved c.reserved = c.reserved := by
        rw [hc.writeReserved_eq]
        rfl
      exact hown.trans ((hreserved c rfl).trans (Int.ofNat_inj.mp hsame))
    · exact ⟨rfl, rfl, rfl, sideReserved_natCast key.cipher.getReserved _⟩

/-- A rekeying is refused if the cipher asks for another page size, and for nothing else. -/
theorem rekeyV2_spec {k : Engine.Codec} {cipher : PageCipher} {codec : Option Codec}
    {nPagesize nReserved : Nat} (halloc : PageCipher.allocate k.cipher = some cipher)
    {password : Bytes} (hpassword : password ≠ []) (h : AllAtRest codec)
    (hreserved : ∀ c, codec = some c → c.reserved = nReserved) (g : Rng) :
    let w := (cipher.generateKey d password true none g).1
    (w.getPageSize = 0 ∨ nPagesize = w.getPageSize → ∃ c,
      rekeyV2 d k nPagesize nReserved codec password g = some c ∧ c.Writes w) ∧
      (¬ (w.getPageSize = 0 ∨ nPagesize = w.getPageSize) →
        rekeyV2 d k nPagesize nReserved codec password g = none) := by
  intro w
  -- the key is made first, and its salt is what the page size is tested with
  have hkey : NewKey.make d k password true none g =
      some ⟨k.hmacCheck.toNat, k.walLegacy.toNat, w⟩ := by
    rw [NewKey.make, halloc]
    rfl
  have hrekey : rekeyV2 d k nPagesize nReserved codec password g =
      if w.getPageSize = 0 ∨ nPagesize = w.getPageSize then
        beginRekey nPagesize nReserved codec (some ⟨k.hmacCheck.toNat, k.walLegacy.toNat, w⟩)
      else none := by
    rw [rekeyV2, if_neg hpassword, hkey]
    rfl
  refine ⟨fun hsize => ?_, fun hsize => ?_⟩
  · rw [hrekey, if_pos hsize]
    exact writes_beginRekey _ h hreserved
  · rw [hrekey, if_neg hsize]

-- ---------------------------------------------------------------------------
-- Reading back
-- ---------------------------------------------------------------------------

/-- A connection which a key was set for reads what the cipher decrypts. -/
theorem restores_load_attach {pageSize hmacCheck walLegacy n page : Nat} {bytes data : Bytes} :
    let loaded := (attach pageSize hmacCheck walLegacy w').load d bytes page
    Restores n data (loaded.2.lastError, loaded.1) ↔
      Restores n data (w'.decryptPage d page bytes w'.getReserved hmacCheck) := by
  intro loaded
  -- an accepted page is handed out as it is, a refused one as zeros
  generalize hdecrypted : w'.decryptPage d page bytes w'.getReserved hmacCheck = decrypted
  have hload : loaded = if decrypted.1 = .ok then
      (decrypted.2, { attach pageSize hmacCheck walLegacy w' with lastError := .ok })
    else (zeros pageSize, { (attach pageSize hmacCheck walLegacy w').report decrypted.1 with
      lastError := decrypted.1 }) := by
    rw [← hdecrypted]
    rfl
  rw [hload]
  by_cases hok : decrypted.1 = .ok
  · rw [if_pos hok, ← hok]
  · rw [if_neg hok]
    exact ⟨fun h => absurd h.rc hok, fun h => absurd h.rc hok⟩

/-- Two ciphers read a page alike. -/
def SamePages (d : Digests) (hmacCheck : Nat) (w w' : PageCipher) : Prop :=
  w'.getReserved = w.getReserved ∧ ∀ page bytes, w'.decryptPage d page bytes w.getReserved hmacCheck =
    w.decryptPage d page bytes w.getReserved hmacCheck

/-- A cipher that reads as the new one gets the pages back that were written under that. -/
theorem reads_rewritten {c : Codec} {pageSize hmacCheck walLegacy : Nat} {pages file : List Bytes}
    (h512 : 512 ≤ pageSize) (hc : c.Writes w) (hdb : Database pageSize pages)
    (hfile : Rewritten d c pageSize pages file) (hsame : SamePages d hmacCheck w w') :
    Reads d (attach pageSize hmacCheck walLegacy w') pageSize pages file := by
  refine ⟨rfl, fun {i page} hpage hlock => ?_⟩
  obtain ⟨g, hstored⟩ := hfile.stored hpage hlock
  have hlen := hdb.length hpage
  obtain ⟨-, hsealed⟩ : (w.encryptPage d (i + 1) page w.getReserved g).1 = .ok ∧ _ :=
    sealed_encryptPage g (by omega) w.suits_getReserved (hdb.first hpage)
  have hopen : Restores (page.length - w.getReserved) page (w.decryptPage d (i + 1) _ _ _) :=
    hsealed.restores hmacCheck
  rw [← hc.store, ← hsame.2, ← hsame.1, hlen] at hopen
  exact ⟨_, hstored, restores_load_attach.mpr hopen⟩

/-- The file begins with what the first page was encrypted to. -/
theorem readDatabaseHeader_flatten {first : Bytes} {file : List Bytes} (h : file[0]? = some first)
    (hlen : 16 ≤ first.length) :
    (readDatabaseHeader file.flatten).map Subtype.val = some (first.take 16) := by
  obtain ⟨rest, rfl⟩ : ∃ rest, file = first :: rest := by
    cases file with
    | nil => cases h
    | cons a rest => exact ⟨rest, by rw [Option.some_inj.mp h]⟩
  have hle : 16 ≤ (first :: rest).flatten.length := by
    rw [List.flatten_cons, List.length_append]
    omega
  rw [readDatabaseHeader, dif_pos hle, Option.map_some]
  show some (List.take 16 (first :: rest).flatten) = _
  rw [List.flatten_cons, List.take_append_of_le_length hlen]

/-- The first page, and what the file begins with. -/
theorem header_rewritten {c : Codec} {pageSize : Nat} {pages file : List Bytes}
    (hps : PageSize pageSize) (hc : c.Writes w) (hdb : Database pageSize pages)
    (hfile : Rewritten d c pageSize pages file) :
    ∃ page g, pages[0]? = some page ∧ page.length = pageSize ∧
      PageCipher.StartsDatabase 1 page ∧ (readDatabaseHeader file.flatten).map Subtype.val =
        some ((w.encryptPage d 1 page w.getReserved g).2.1.take 16) := by
  obtain ⟨h512, -⟩ := hps.bounds
  obtain ⟨page, hpage⟩ : ∃ page, pages[0]? = some page :=
    ⟨_, List.getElem?_eq_getElem (List.length_pos_iff.mpr hdb.ne_nil)⟩
  have hlt := lt_mjPgno hps
  obtain ⟨g, hstored⟩ := hfile.stored hpage (by omega)
  have hlen := hdb.length hpage
  -- the first page was encrypted like any other, so the file begins as it does
  obtain ⟨-, hsealed⟩ : (w.encryptPage d 1 page w.getReserved g).1 = .ok ∧ _ :=
    sealed_encryptPage g (by omega) w.suits_getReserved (hdb.first hpage)
  refine ⟨page, g, hpage, hlen, hdb.first hpage, ?_⟩
  rw [hc.store] at hstored
  exact readDatabaseHeader_flatten hstored (by rw [hsealed.length]; omega)

end Codec

end Native

end SqliteMc
