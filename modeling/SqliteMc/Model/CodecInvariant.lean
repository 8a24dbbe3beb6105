import SqliteMc.Model.Codec

/-!
# Consistent codecs

A codec is consistent when each of its sides that is in use has a cipher that the reserved bytes
of a page suit. Then no page is refused: what is stored under a side is `Sealed` under its key,
and what is sealed under the read key is loaded.

* `sealed_store`, `load_of_sealed`: a page through the codec, in both directions.
* `settings_load`, `settings_store`: only the error codes change on the way.
* `attach_spec`, `rekey_committed`, `rekey_rolledBack`: the keys after a key was set or changed.
* `key_beginRekey`, `key_endRekey`: the keys while it is changed, and after a rollback.
-/

namespace SqliteMc

namespace Native

open Buffer ChaCha20

-- ---------------------------------------------------------------------------
-- Reserved bytes
-- ---------------------------------------------------------------------------

namespace PageCipher

/-- A cipher that suits a page uses no more bytes of it than the pager reserves. -/
theorem nReserved_le {c : PageCipher} {reserved : Nat} (h : c.Suits reserved) :
    c.nReserved reserved ≤ reserved := by
  cases c with
  | aes128 c => exact Nat.zero_le _
  | aes256 c => exact Nat.zero_le _
  | chacha20 c =>
    -- no mismatch is what the source tests: the used bytes are none, or the reserved ones
    have hmis : ¬ c.mismatch reserved := h
    unfold ChaCha20Cipher.mismatch at hmis
    show c.nReserved reserved ≤ reserved
    omega
  | sqlcipher c =>
    have hmis : ¬ c.mismatch reserved := h
    unfold SQLCipherCipher.mismatch at hmis
    show c.nReserved reserved ≤ reserved
    omega
  | rc4 c => exact Nat.zero_le _
  | ascon128 c => exact h

/-- The bytes a cipher asks for suit it. -/
theorem suits_getReserved (c : PageCipher) : c.Suits c.getReserved := by
  cases c with
  | aes128 c => trivial
  | aes256 c => trivial
  | chacha20 c =>
    show ¬ c.mismatch 32
    -- ChaCha20 reserves 32 bytes, which is not the zero of a legacy page
    have h32 : c.nReserved 32 = 32 := if_neg fun h => absurd h.1 (by decide)
    unfold ChaCha20Cipher.mismatch
    omega
  | sqlcipher c =>
    show ¬ c.mismatch c.getReserved
    -- the HMAC algorithm decides between three sizes, none of which is zero
    have hpos : c.getReserved ≠ 0 := by
      rcases c.getReserved_eq with h | h | h <;> omega
    have hsame : c.nReserved c.getReserved = c.getReserved := if_neg fun h => hpos h.1
    unfold SQLCipherCipher.mismatch
    omega
  | rc4 c => trivial
  | ascon128 c => exact Nat.le_refl 32

/-- A page whose reserved bytes do not suit the cipher is handed back as it is. -/
theorem encryptPage_of_not_suits {d : Digests} {c : PageCipher} {page reserved : Nat} {data : Bytes}
    {g : Rng} (h : ¬ c.Suits reserved) :
    c.encryptPage d page data reserved g = (.corrupt, data, g) := by
  cases c with
  | aes128 c => exact absurd trivial h
  | aes256 c => exact absurd trivial h
  | chacha20 c => exact if_pos (not_not.mp h)
  | sqlcipher c => exact if_pos (not_not.mp h)
  | rc4 c => exact absurd trivial h
  | ascon128 c => exact if_pos (Nat.lt_of_not_le h)

/-- The encryption fails for no other reason. -/
theorem encryptPage_of_suits {d : Digests} {c : PageCipher} {page reserved : Nat} {data : Bytes}
    {g : Rng} (h : c.Suits reserved) : (c.encryptPage d page data reserved g).1 = .ok := by
  -- the ciphers that can fail test the reserved bytes first; behind the test they succeed
  cases c with
  | chacha20 c =>
    have hmis : ¬ c.mismatch reserved := h
    show (c.encryptPage d page data reserved g).1 = .ok
    unfold ChaCha20Cipher.encryptPage
    dsimp only
    rw [if_neg hmis]
    split <;> rfl
  | sqlcipher c =>
    have hmis : ¬ c.mismatch reserved := h
    show (c.encryptPage d page data reserved g).1 = .ok
    unfold SQLCipherCipher.encryptPage
    dsimp only
    rw [if_neg hmis]
    split <;> rfl
  | ascon128 c =>
    have hle : ¬ reserved < Ascon128Cipher.nReserved reserved := Nat.not_lt.mpr h
    show (c.encryptPage d page data reserved g).1 = .ok
    unfold Ascon128Cipher.encryptPage
    dsimp only
    rw [if_neg hle]
    split <;> rfl
  | _ => rfl

end PageCipher

-- ---------------------------------------------------------------------------
-- Pages under a key
-- ---------------------------------------------------------------------------

/-- A page read under a key, or as it is if there is none. -/
def openPage (d : Digests) (key : Option PageCipher) (reserved hmacCheck page : Nat)
    (bytes : Bytes) : Rc × Bytes :=
  match key with
  | some c => c.decryptPage d page bytes reserved hmacCheck
  | none => (.ok, bytes)

/-- The bytes are what the key makes of the page. -/
def Encrypted (d : Digests) (key : Option PageCipher) (reserved page : Nat) (data bytes : Bytes) :
    Prop :=
  match key with
  | some c => ∃ g g', c.encryptPage d page data reserved g = (.ok, bytes, g')
  | none => bytes = data

/-- The bytes are the page under the key, and whoever has the key reads it back, whether the tags
are checked or not. -/
structure Sealed (d : Digests) (key : Option PageCipher) (reserved page : Nat)
    (data bytes : Bytes) : Prop where
  length : bytes.length = data.length
  restores : ∀ hmacCheck, Restores (data.length - reserved) data
    (openPage d key reserved hmacCheck page bytes)
  encrypted : Encrypted d key reserved page data bytes

/-- What is restored up to a position is restored up to an earlier one. -/
theorem Restores.mono {n k : Nat} {data : Bytes} {r : Rc × Bytes} (h : Restores n data r)
    (hk : k ≤ n) : Restores k data r := by
  refine ⟨h.rc, h.length, ?_⟩
  apply take_eq_of_getElem?
  intro i hi
  exact getElem?_of_take_eq h.take (by omega)

/-- Without a key a page is stored as it is. -/
theorem sealed_none (d : Digests) (reserved page : Nat) (data : Bytes) :
    Sealed d none reserved page data data :=
  ⟨rfl, fun _ => ⟨rfl, rfl, rfl⟩, rfl⟩

/-- What a cipher makes of a page. -/
theorem sealed_encryptPage {d : Digests} {c : PageCipher} {page reserved : Nat} {data : Bytes}
    (g : Rng) (h512 : 512 ≤ data.length) (hsuits : c.Suits reserved)
    (hfirst : PageCipher.StartsDatabase page data) :
    (c.encryptPage d page data reserved g).1 = .ok ∧
      Sealed d (some c) reserved page data (c.encryptPage d page data reserved g).2.1 := by
  have htrip (hmacCheck : Nat) := c.roundTrip d hmacCheck g h512 hsuits hfirst
  have hrc := (htrip 0).rc
  refine ⟨hrc, (htrip 0).length, fun hmacCheck => ?_, g, _, Prod.ext hrc rfl⟩
  have hle := PageCipher.nReserved_le hsuits
  exact (htrip hmacCheck).restores.mono (by omega)

namespace Codec

variable {d : Digests} {c : Codec}

/-- The key of a side, if pages go through a cipher there. -/
def key (c : Codec) (useWriteKey : Bool) : Option PageCipher :=
  if c.isEncrypted = true ∧ (if useWriteKey then c.hasWriteCipher else c.hasReadCipher) = true then
    c.cipherFor useWriteKey
  else none

/-- The codec without the error codes. -/
def settings (c : Codec) : Codec := { c with lastError := .ok, pagerError := .ok }

/-- Each side in use has a cipher that the pages suit. Reserved bytes of their own are for the
rewriting of a database under another page layout. -/
structure Consistent (c : Codec) : Prop where
  pageSize_ge : 512 ≤ c.pageSize
  readReserved_eq : c.readReserved = -1
  writeReserved_eq : c.writeReserved = -1
  read : c.isEncrypted = true → c.hasReadCipher = true →
    ∃ cipher, c.readCipher = some cipher ∧ cipher.Suits c.reserved
  write : c.isEncrypted = true → c.hasWriteCipher = true →
    ∃ cipher, c.writeCipher = some cipher ∧ cipher.Suits c.reserved

/-- Consistency is about the settings only, and these are a codec of their own. -/
theorem consistent_settings : c.settings.Consistent ↔ c.Consistent :=
  ⟨fun h => ⟨h.pageSize_ge, h.readReserved_eq, h.writeReserved_eq, h.read, h.write⟩,
    fun h => ⟨h.pageSize_ge, h.readReserved_eq, h.writeReserved_eq, h.read, h.write⟩⟩

/-- The keys are settings. -/
@[simp] theorem key_settings (useWriteKey : Bool) : c.settings.key useWriteKey = c.key useWriteKey :=
  rfl

/-- Codecs that differ in their error codes have the same keys. -/
theorem key_congr {c c' : Codec} (h : c.settings = c'.settings) (useWriteKey : Bool) :
    c.key useWriteKey = c'.key useWriteKey := by
  rw [← key_settings, h, key_settings]

/-- The settings hold the page size, the reserved bytes and the flags. -/
theorem fields_congr {c c' : Codec} (h : c.settings = c'.settings) : c.pageSize = c'.pageSize ∧
    c.reserved = c'.reserved ∧ c.isEncrypted = c'.isEncrypted ∧ c.walLegacy = c'.walLegacy := by
  have hps := congrArg Codec.pageSize h
  have hres := congrArg Codec.reserved h
  have henc := congrArg Codec.isEncrypted h
  have hwal := congrArg Codec.walLegacy h
  exact ⟨hps, hres, henc, hwal⟩

/-- Codecs with equal settings are consistent together. -/
theorem Consistent.congr {c c' : Codec} (hc : c.Consistent) (h : c.settings = c'.settings) :
    c'.Consistent := by
  rw [← consistent_settings, ← h]
  exact consistent_settings.mpr hc

/-- A consistent codec uses the reserved bytes of the pager for both of its keys. -/
theorem Consistent.reservedFor_eq (hc : c.Consistent) (useWriteKey : Bool) :
    c.reservedFor useWriteKey = c.reserved := by
  unfold reservedFor sideReserved
  cases useWriteKey
  · simp [hc.readReserved_eq]
  · simp [hc.writeReserved_eq]

/-- The key of a side in use is its cipher. -/
theorem Consistent.key_eq_some (hc : c.Consistent) {useWriteKey : Bool}
    (henc : c.isEncrypted = true)
    (hhas : (if useWriteKey then c.hasWriteCipher else c.hasReadCipher) = true) :
    ∃ cipher, c.cipherFor useWriteKey = some cipher ∧ c.key useWriteKey = some cipher ∧
      cipher.Suits c.reserved := by
  have hkey : c.key useWriteKey = c.cipherFor useWriteKey := if_pos ⟨henc, hhas⟩
  cases useWriteKey with
  | false =>
    obtain ⟨cipher, hcipher, hsuits⟩ := hc.read henc hhas
    exact ⟨cipher, hcipher, hkey.trans hcipher, hsuits⟩
  | true =>
    obtain ⟨cipher, hcipher, hsuits⟩ := hc.write henc hhas
    exact ⟨cipher, hcipher, hkey.trans hcipher, hsuits⟩

-- ---------------------------------------------------------------------------
-- Through the codec
-- ---------------------------------------------------------------------------

/-- A load changes no settings: at most the errors. -/
@[simp] theorem settings_load (data : Bytes) (page : Nat) :
    (c.load d data page).2.settings = c.settings := by
  unfold load
  dsimp only
  split_ifs <;> rfl

/-- A store changes no settings: at most the errors. -/
@[simp] theorem settings_store (data : Bytes) (page : Nat) (useWriteKey : Bool) (g : Rng) :
    (c.store d data page useWriteKey g).2.1.settings = c.settings := by
  unfold store
  dsimp only
  split_ifs <;> rfl

/-- A page that is sealed under the read key is loaded, and nothing is reported. -/
theorem load_of_sealed {data bytes : Bytes} {page : Nat} (hc : c.Consistent)
    (h : Sealed d (c.key false) c.reserved page data bytes) :
    Restores (data.length - c.reserved) data ((c.load d bytes page).2.lastError,
      (c.load d bytes page).1) ∧ (c.load d bytes page).2.pagerError = c.pagerError := by
  have hopen := h.restores
  unfold load
  -- an unencrypted database, no cipher to read with, or a cipher that opens the page
  by_cases henc : c.isEncrypted = false
  · rw [if_pos henc]
    have hnone : c.key false = none := if_neg fun hcase => by simp [henc] at hcase
    rw [hnone] at hopen
    exact ⟨hopen 0, rfl⟩
  · by_cases hhas : c.hasReadCipher = false
    · rw [if_neg henc, if_pos hhas]
      have hnone : c.key false = none := if_neg fun hcase => by simp [hhas] at hcase
      rw [hnone] at hopen
      exact ⟨hopen 0, rfl⟩
    · rw [if_neg henc, if_neg hhas]
      obtain ⟨cipher, hcipher, hkey, -⟩ : ∃ cipher, c.cipherFor false = some cipher ∧
          c.key false = some cipher ∧ cipher.Suits c.reserved :=
        hc.key_eq_some (Bool.eq_true_of_not_eq_false henc) (Bool.eq_true_of_not_eq_false hhas)
      -- the codec's `decrypt` is the cipher's, with the reserved bytes of the pager
      have hdec : c.decrypt d page bytes =
          openPage d (some cipher) c.reserved c.hmacCheck page bytes := by
        show (match c.cipherFor false with
          | some cipher => cipher.decryptPage d page bytes (c.reservedFor false) c.hmacCheck
          | none => (.error, bytes)) = _
        rw [hcipher, hc.reservedFor_eq]
        rfl
      have hrestores := hopen c.hmacCheck
      rw [hkey] at hrestores
      rw [hdec]
      dsimp only
      rw [if_pos hrestores.rc]
      exact ⟨⟨rfl, hrestores.length, hrestores.take⟩, rfl⟩

/-- A page that is stored is sealed under the key of the side. -/
theorem sealed_store {data : Bytes} {page : Nat} {useWriteKey : Bool} (hc : c.Consistent) (g : Rng)
    (hlen : data.length = c.pageSize) (hfirst : PageCipher.StartsDatabase page data) :
    Sealed d (c.key useWriteKey) c.reserved page data (c.store d data page useWriteKey g).1 ∧
      (c.store d data page useWriteKey g).2.1.lastError = .ok ∧
      (c.store d data page useWriteKey g).2.1.pagerError = c.pagerError := by
  unfold store
  -- an unencrypted database, no cipher to write with, or a cipher that suits the page
  by_cases henc : c.isEncrypted = false
  · rw [if_pos henc]
    have hnone : c.key useWriteKey = none := if_neg fun hcase => by simp [henc] at hcase
    rw [hnone]
    exact ⟨sealed_none _ _ _ _, rfl, rfl⟩
  · by_cases hhas : (if useWriteKey then c.hasWriteCipher else c.hasReadCipher) = false
    · rw [if_neg henc, if_pos hhas]
      have hnone : c.key useWriteKey = none := if_neg fun hcase => by
        rw [hhas] at hcase
        exact absurd hcase.2 (by decide)
      rw [hnone]
      exact ⟨sealed_none _ _ _ _, rfl, rfl⟩
    · rw [if_neg henc, if_neg hhas]
      obtain ⟨cipher, hcipher, hkey, hsuits⟩ := hc.key_eq_some
        (Bool.eq_true_of_not_eq_false henc) (Bool.eq_true_of_not_eq_false hhas)
      have hge := hc.pageSize_ge
      obtain ⟨hok, hsealed⟩ : (cipher.encryptPage d page data c.reserved g).1 = .ok ∧ _ :=
        sealed_encryptPage g (by omega) hsuits hfirst
      -- the codec's `encrypt` is the cipher's, with the reserved bytes of the pager
      have henc : c.encrypt d page data useWriteKey g =
          cipher.encryptPage d page data c.reserved g := by
        rw [encrypt, hcipher, hc.reservedFor_eq]
      rw [henc, hkey]
      dsimp only
      rw [if_pos hok]
      exact ⟨hsealed, rfl, rfl⟩

/-- What a side in use makes of a page depends on whether its cipher suits the reserved bytes. -/
theorem store_of_suits {cipher : PageCipher} {useWriteKey : Bool} (henc : c.isEncrypted = true)
    (hhas : (if useWriteKey then c.hasWriteCipher else c.hasReadCipher) = true)
    (hcipher : c.cipherFor useWriteKey = some cipher)
    (hsuits : cipher.Suits (c.reservedFor useWriteKey)) (data : Bytes) (page : Nat) (g : Rng) :
    (c.store d data page useWriteKey g).2.1 = { c with lastError := .ok } := by
  have hok : (c.encrypt d page data useWriteKey g).1 = .ok := by
    rw [encrypt, hcipher]
    exact PageCipher.encryptPage_of_suits hsuits
  unfold store
  dsimp only
  rw [if_neg (by simp [henc]), if_neg (by simp [hhas]), if_pos hok]

/-- A cipher that does not suit the reserved bytes lets no page be stored. -/
theorem store_of_not_suits {cipher : PageCipher} {useWriteKey : Bool} (henc : c.isEncrypted = true)
    (hhas : (if useWriteKey then c.hasWriteCipher else c.hasReadCipher) = true)
    (hcipher : c.cipherFor useWriteKey = some cipher)
    (hsuits : ¬ cipher.Suits (c.reservedFor useWriteKey)) (data : Bytes) (page : Nat) (g : Rng) :
    c.store d data page useWriteKey g =
      (data, { c with pagerError := .corrupt, lastError := .corrupt }, g) := by
  have hbad : c.encrypt d page data useWriteKey g = (.corrupt, data, g) := by
    rw [encrypt, hcipher]
    exact PageCipher.encryptPage_of_not_suits hsuits
  unfold store
  dsimp only
  rw [if_neg (by simp [henc]), if_neg (by simp [hhas]), hbad, if_neg (by simp)]
  rfl

-- ---------------------------------------------------------------------------
-- Setting up
-- ---------------------------------------------------------------------------

/-- The codec of an encrypted database while it is not being rekeyed. -/
structure AtRest (c : Codec) : Prop extends c.Consistent where
  isEncrypted : c.isEncrypted = true
  hasReadCipher : c.hasReadCipher = true

/-- Pages are written under the key they are read with. -/
def Settled (c : Codec) : Prop := c.key true = c.key false

/-- A new key: every page is read and written under it. -/
theorem attach_spec {pageSize hmacCheck walLegacy : Nat} {cipher : PageCipher}
    (h : 512 ≤ pageSize) :
    (attach pageSize hmacCheck walLegacy cipher).AtRest ∧
      (attach pageSize hmacCheck walLegacy cipher).key true = some cipher ∧
      (attach pageSize hmacCheck walLegacy cipher).key false = some cipher ∧
      (attach pageSize hmacCheck walLegacy cipher).reserved = cipher.getReserved := by
  have hsuits : cipher.Suits (attach pageSize hmacCheck walLegacy cipher).reserved :=
    cipher.suits_getReserved
  refine ⟨⟨⟨h, rfl, rfl, ?_, ?_⟩, rfl, rfl⟩, rfl, rfl, rfl⟩
  · exact fun _ _ => ⟨cipher, rfl, hsuits⟩
  · exact fun _ _ => ⟨cipher, rfl, hsuits⟩

/-- The reserved bytes of the pages are those that a cipher asked for. -/
def Sized (c : Codec) : Prop := ∃ cipher : PageCipher, c.reserved = cipher.getReserved

/-- So the checksum of a journal, which looks at every 200th byte, does not see them. -/
theorem Sized.lt (h : c.Sized) : c.reserved < 200 := by
  obtain ⟨cipher, hreserved⟩ := h
  rw [hreserved]
  cases cipher with
  | sqlcipher cipher =>
    show cipher.getReserved < 200
    rcases cipher.getReserved_eq with h | h | h <;> omega
  | chacha20 _ => exact (by decide : 32 < 200)
  | ascon128 _ => exact (by decide : 32 < 200)
  | _ => exact (by decide : 0 < 200)

/-- An attached codec has the reserved bytes of its cipher. -/
theorem sized_attach (pageSize hmacCheck walLegacy : Nat) (cipher : PageCipher) :
    (attach pageSize hmacCheck walLegacy cipher).Sized := ⟨cipher, rfl⟩

/-- The codec of a database, if it is encrypted, is at rest. -/
def AllAtRest (codec : Option Codec) : Prop := ∀ c, codec = some c → c.AtRest

/-- The key of a side of a database. -/
def keyOf (codec : Option Codec) (useWriteKey : Bool) : Option PageCipher :=
  codec.bind fun c => c.key useWriteKey

/-- A database without a codec is at rest. -/
theorem allAtRest_none : AllAtRest none := fun c h => by cases h

/-- At rest every codec there is encrypts. -/
theorem AllAtRest.filter {codec : Option Codec} (h : AllAtRest codec) :
    (codec.filter fun c => c.isEncrypted) = codec := by
  cases codec with
  | none => rfl
  | some c => simp [(h c rfl).isEncrypted]

/-- The fields that the reserved bytes of the sides leave alone. -/
@[simp] theorem setReserved_fields (r w : Int) :
    (c.setReserved r w).isEncrypted = c.isEncrypted ∧
      (c.setReserved r w).hasReadCipher = c.hasReadCipher ∧
      (c.setReserved r w).readCipher = c.readCipher ∧
      (c.setReserved r w).hasWriteCipher = c.hasWriteCipher ∧
      (c.setReserved r w).writeCipher = c.writeCipher ∧
      (c.setReserved r w).pageSize = c.pageSize ∧
      (c.setReserved r w).reserved = c.reserved := by
  unfold setReserved
  split <;> simp

-- ---------------------------------------------------------------------------
-- When the pages were rewritten
-- ---------------------------------------------------------------------------

/-- With a new key both sides have it afterwards. -/
theorem endRekey_committed {cipher : PageCipher} (hps : 512 ≤ c.pageSize)
    (henc : c.isEncrypted = true) (hhas : c.hasWriteCipher = true)
    (hcipher : c.writeCipher = some cipher) :
    ∃ c', c.endRekey true = some c' ∧ c'.AtRest ∧ c'.key true = some cipher ∧
      c'.key false = some cipher ∧ c'.reserved = cipher.getReserved ∧ c'.pageSize = c.pageSize := by
  -- the write cipher is copied over the read cipher, and the sizes are the new ones
  have hset : c.endRekey true = some { ({ c.copyCipher false with hasReadCipher := true }.sizeChange
      cipher.getReserved) with readReserved := -1, writeReserved := -1 } := by
    cases c
    dsimp only at henc hhas hcipher
    subst henc hhas hcipher
    rfl
  have hsuits := cipher.suits_getReserved
  refine ⟨_, hset, ⟨⟨hps, rfl, rfl, ?_, ?_⟩, henc, rfl⟩, ?_, ?_, rfl, rfl⟩
  -- both ciphers are the new one, which suits the bytes it reserves itself
  · exact fun _ _ => ⟨cipher, hcipher, hsuits⟩
  · exact fun _ _ => ⟨cipher, hcipher, hsuits⟩
  · exact (if_pos ⟨henc, hhas⟩).trans hcipher
  · exact (if_pos ⟨henc, rfl⟩).trans hcipher

/-- Without one the database is not encrypted any more. -/
theorem endRekey_decrypted (hhas : c.hasWriteCipher = false) : c.endRekey true = none := by
  cases c
  dsimp only at hhas
  subst hhas
  rfl

-- ---------------------------------------------------------------------------
-- When the database was rolled back
-- ---------------------------------------------------------------------------

/-- A database that was encrypted keeps its read cipher, and the flag of the write side. -/
theorem endRekey_rolledBack (henc : c.isEncrypted = true) (hhas : c.hasReadCipher = true) :
    c.endRekey false =
      some { c.copyCipher true with readReserved := -1, writeReserved := -1 } := by
  cases c
  dsimp only at henc hhas
  subst henc hhas
  rfl

/-- An unencrypted database loses its codec again when its encryption is rolled back. -/
theorem endRekey_unencrypted (hhas : c.hasReadCipher = false) : c.endRekey false = none := by
  cases c
  dsimp only at hhas
  subst hhas
  rfl

-- ---------------------------------------------------------------------------
-- Rekeying
-- ---------------------------------------------------------------------------

section Rekey

variable {pageSize nReserved : Nat} {codec : Option Codec} {key : Option NewKey}

/-- A database that was rewritten is at rest again, with the new key on both sides. -/
theorem rekey_committed (hps : 512 ≤ pageSize) (h : AllAtRest codec) :
    AllAtRest (rekey pageSize nReserved codec key true) ∧
      ∀ useWriteKey, keyOf (rekey pageSize nReserved codec key true) useWriteKey =
        key.map NewKey.cipher := by
  -- the write cipher that was set up is on both sides at the end
  have hnew {c₁ : Codec} {k : NewKey} (hps₁ : 512 ≤ c₁.pageSize) (henc : c₁.isEncrypted = true)
      (hhas : c₁.hasWriteCipher = true) (hcipher : c₁.writeCipher = some k.cipher) :
      AllAtRest (c₁.endRekey true) ∧
        ∀ useWriteKey, keyOf (c₁.endRekey true) useWriteKey = some k.cipher := by
    obtain ⟨c', hend, hrest, hwrite, hread, -⟩ := endRekey_committed hps₁ henc hhas hcipher
    rw [hend]
    refine ⟨fun c'' hc'' => Option.some_inj.mp hc'' ▸ hrest, fun useWriteKey => ?_⟩
    cases useWriteKey
    · exact hread
    · exact hwrite
  unfold rekey beginRekey
  rw [h.filter]
  cases codec with
  | none =>
    cases key with
    | none => exact ⟨allAtRest_none, fun _ => rfl⟩
    | some k =>
      rw [if_neg (by simp)]
      obtain ⟨f1, -, -, f4, f5, f6, -⟩ := setReserved_fields
        (c := ({ (init pageSize).setupWriteCipher k.hmacCheck k.walLegacy k.cipher with
          hasReadCipher := false }.sizeChange k.cipher.getReserved)) nReserved k.cipher.getReserved
      exact hnew (f6.symm ▸ hps) f1 f4 f5
  | some c =>
    have hc := h c rfl
    rw [if_neg (by simp)]
    cases key with
    | none =>
      have hend : ({ c with hasWriteCipher := false }.setReserved nReserved 0).endRekey true = none :=
        endRekey_decrypted (by simp)
      simp only [Option.bind_some, hend]
      exact ⟨allAtRest_none, fun _ => rfl⟩
    | some k =>
      obtain ⟨f1, -, -, f4, f5, f6, -⟩ := setReserved_fields
        (c := c.setupWriteCipher k.hmacCheck k.walLegacy k.cipher) nReserved k.cipher.getReserved
      exact hnew (f6.symm ▸ hc.pageSize_ge) f1 f4 f5

/-- A database that was rolled back is read as before. It is written as it is read, but for a
database that was to be decrypted. -/
theorem rekey_rolledBack (h : AllAtRest codec) :
    AllAtRest (rekey pageSize nReserved codec key false) ∧
      keyOf (rekey pageSize nReserved codec key false) false = keyOf codec false ∧
      keyOf (rekey pageSize nReserved codec key false) true =
        key.bind fun _ => keyOf codec false := by
  -- the read cipher is on both sides at the end, under the flags they had
  have hback {c c₁ : Codec} (hc : c.AtRest) (henc : c₁.isEncrypted = true)
      (hhas : c₁.hasReadCipher = true) (hread : c₁.readCipher = c.readCipher)
      (hps : c₁.pageSize = c.pageSize) (hres : c₁.reserved = c.reserved) :
      AllAtRest (c₁.endRekey false) ∧ keyOf (c₁.endRekey false) false = c.key false ∧
        keyOf (c₁.endRekey false) true = if c₁.hasWriteCipher = true then c.key false else none := by
    obtain ⟨cipher, hcipher, hsuits⟩ := hc.read hc.isEncrypted hc.hasReadCipher
    have hkey : c.key false = c.readCipher := if_pos ⟨hc.isEncrypted, hc.hasReadCipher⟩
    have hcopy : c₁.readCipher = some cipher := hread.trans hcipher
    have hsuits₁ : cipher.Suits c₁.reserved := hres.symm ▸ hsuits
    rw [endRekey_rolledBack henc hhas, hkey]
    refine ⟨fun c'' hc'' => Option.some_inj.mp hc'' ▸ ⟨⟨hps.symm ▸ hc.pageSize_ge, rfl, rfl, ?_, ?_⟩,
      henc, hhas⟩, ?_, ?_⟩
    · exact fun _ _ => ⟨cipher, hcopy, hsuits₁⟩
    · exact fun _ _ => ⟨cipher, hcopy, hsuits₁⟩
    · exact (if_pos ⟨henc, hhas⟩).trans hread
    · by_cases hwrite : c₁.hasWriteCipher = true
      · rw [if_pos hwrite]
        exact (if_pos ⟨henc, hwrite⟩).trans hread
      · rw [if_neg hwrite]
        exact if_neg fun hcase => hwrite hcase.2
  unfold rekey beginRekey
  rw [h.filter]
  cases codec with
  | none =>
    cases key with
    | none => exact ⟨allAtRest_none, rfl, rfl⟩
    | some k =>
      rw [if_neg (by simp)]
      have hend : (({ (init pageSize).setupWriteCipher k.hmacCheck k.walLegacy k.cipher with
          hasReadCipher := false }.sizeChange k.cipher.getReserved).setReserved nReserved
          k.cipher.getReserved).endRekey false = none := endRekey_unencrypted (by simp [sizeChange])
      have hnone := congrArg (fun o => AllAtRest o ∧ keyOf o false = none ∧ keyOf o true = none) hend
      exact hnone.mpr ⟨allAtRest_none, rfl, rfl⟩
  | some c =>
    have hc := h c rfl
    rw [if_neg (by simp)]
    cases key with
    | none =>
      obtain ⟨f1, f2, f3, -, -, f6, f7⟩ := setReserved_fields
        (c := { c with hasWriteCipher := false }) nReserved 0
      obtain ⟨hrest, hread, hwrite⟩ := hback hc (f1.trans hc.isEncrypted)
        (f2.trans hc.hasReadCipher) f3 f6 f7
      exact ⟨hrest, hread, hwrite.trans (if_neg (by simp))⟩
    | some k =>
      obtain ⟨f1, f2, f3, f4, -, f6, f7⟩ := setReserved_fields
        (c := c.setupWriteCipher k.hmacCheck k.walLegacy k.cipher) nReserved k.cipher.getReserved
      obtain ⟨hrest, hread, hwrite⟩ := hback hc f1 (f2.trans hc.hasReadCipher) f3 f6 f7
      exact ⟨hrest, hread, hwrite.trans (if_pos f4)⟩

/-- A database that is encrypted and gets a new key. -/
theorem beginRekey_some {c₀ : Codec} (k : NewKey) (henc : c₀.isEncrypted = true) :
    beginRekey pageSize nReserved (some c₀) (some k) =
      some ((c₀.setupWriteCipher k.hmacCheck k.walLegacy k.cipher).setReserved nReserved
        k.cipher.getReserved) := by
  obtain ⟨enc, _, _, _, _, _, _, _, _, _, _, _, _⟩ := c₀
  cases henc
  rfl

/-- A database that is encrypted and is to be decrypted. -/
theorem beginRekey_none {c₀ : Codec} (henc : c₀.isEncrypted = true) :
    beginRekey pageSize nReserved (some c₀) none =
      some ({ c₀ with hasWriteCipher := false }.setReserved nReserved 0) := by
  obtain ⟨enc, _, _, _, _, _, _, _, _, _, _, _, _⟩ := c₀
  cases henc
  rfl

/-- While the pages are rewritten they are read under the old key and written under the new one. -/
theorem key_beginRekey {c₀ : Codec} (h : c₀.AtRest)
    (hbegin : beginRekey pageSize nReserved (some c₀) key = some c) :
    c.key false = c₀.key false ∧ c.key true = key.map NewKey.cipher := by
  have hread : c₀.key false = c₀.readCipher := if_pos ⟨h.isEncrypted, h.hasReadCipher⟩
  cases key with
  | none =>
    -- a decryption takes the write cipher away
    rw [beginRekey_none h.isEncrypted] at hbegin
    obtain ⟨f1, f2, f3, f4, -, -, -⟩ := setReserved_fields
      (c := { c₀ with hasWriteCipher := false }) nReserved 0
    obtain rfl := Option.some_inj.mp hbegin
    refine ⟨?_, if_neg fun hcase => Bool.false_ne_true (f4.symm.trans hcase.2)⟩
    exact (if_pos ⟨f1.trans h.isEncrypted, f2.trans h.hasReadCipher⟩).trans (f3.trans hread.symm)
  | some k =>
    -- a rekey sets a new write cipher and leaves the read cipher
    rw [beginRekey_some k h.isEncrypted] at hbegin
    obtain ⟨f1, f2, f3, f4, f5, -, -⟩ := setReserved_fields
      (c := c₀.setupWriteCipher k.hmacCheck k.walLegacy k.cipher) nReserved k.cipher.getReserved
    obtain rfl := Option.some_inj.mp hbegin
    refine ⟨?_, (if_pos ⟨f1, f4⟩).trans f5⟩
    exact (if_pos ⟨f1, f2.trans h.hasReadCipher⟩).trans (f3.trans hread.symm)

/-- A rekeying that keeps the reserved bytes of the pages, so that no `VACUUM` is needed. -/
theorem atRest_beginRekey {c₀ : Codec} {k : NewKey} (h : c₀.AtRest)
    (hsame : k.cipher.getReserved = c₀.reserved) :
    ∃ c, beginRekey pageSize c₀.reserved (some c₀) (some k) = some c ∧ c.AtRest := by
  have hkeep : (c₀.setupWriteCipher k.hmacCheck k.walLegacy k.cipher).setReserved c₀.reserved
      k.cipher.getReserved = c₀.setupWriteCipher k.hmacCheck k.walLegacy k.cipher :=
    if_pos (congrArg Int.ofNat hsame.symm)
  refine ⟨_, (beginRekey_some k h.isEncrypted).trans (congrArg some hkeep), ?_⟩
  refine ⟨⟨h.pageSize_ge, h.readReserved_eq, h.writeReserved_eq, ?_, ?_⟩, rfl, h.hasReadCipher⟩
  · exact fun _ hhas => h.read h.isEncrypted hhas
  · exact fun _ _ => ⟨k.cipher, rfl, hsame ▸ k.cipher.suits_getReserved⟩

/-- The pages are rewritten with the reserved bytes they have. -/
theorem Sized.beginRekey {c₀ : Codec} (h : c₀.Sized) (henc : c₀.isEncrypted = true)
    (hbegin : beginRekey pageSize nReserved (some c₀) key = some c) : c.Sized := by
  obtain ⟨cipher, hreserved⟩ := h
  cases key with
  -- in both cases the reserved bytes the pager had stay until the end of the rekey
  | none =>
    rw [beginRekey_none henc] at hbegin
    obtain ⟨-, -, -, -, -, -, f7⟩ := setReserved_fields
      (c := { c₀ with hasWriteCipher := false }) nReserved 0
    exact ⟨cipher, Option.some_inj.mp hbegin ▸ f7.trans hreserved⟩
  | some k =>
    rw [beginRekey_some k henc] at hbegin
    obtain ⟨-, -, -, -, -, -, f7⟩ := setReserved_fields
      (c := c₀.setupWriteCipher k.hmacCheck k.walLegacy k.cipher) nReserved k.cipher.getReserved
    exact ⟨cipher, Option.some_inj.mp hbegin ▸ f7.trans hreserved⟩

/-- The end of a rekeying does not look at the error codes. -/
theorem endRekey_settings (committed : Bool) :
    c.settings.endRekey committed = (c.endRekey committed).map settings := by
  obtain ⟨enc, _, _, hread, _, _, hwrite, _, _, _, _, _, _⟩ := c
  cases committed <;> cases enc <;> cases hread <;> cases hwrite <;> rfl

/-- The keys of a codec are those of its settings. -/
theorem keyOf_settings (codec : Option Codec) (useWriteKey : Bool) :
    keyOf (codec.map settings) useWriteKey = keyOf codec useWriteKey := by
  cases codec <;> rfl

/-- After a rollback a database is written under its old key again, but for one that was to be
decrypted. -/
theorem key_endRekey {c₀ c' : Codec} (h : c₀.AtRest)
    (hbegin : beginRekey pageSize nReserved (some c₀) key = some c) (hs : c'.settings = c.settings) :
    keyOf (c'.endRekey false) true = key.bind fun _ => c₀.key false := by
  have hall : AllAtRest (some c₀) := fun c hc => Option.some_inj.mp hc ▸ h
  have hback : keyOf (rekey pageSize nReserved (some c₀) key false) true =
      key.bind fun _ => keyOf (some c₀) false := (rekey_rolledBack hall).2.2
  have hrekey : rekey pageSize nReserved (some c₀) key false = c.endRekey false := by
    rw [rekey, if_neg (by simp [hall.filter]), hbegin]
    rfl
  rw [hrekey] at hback
  rw [← keyOf_settings, ← endRekey_settings, hs, endRekey_settings, keyOf_settings, hback]
  rfl

end Rekey

end Codec

end Native

end SqliteMc
