import SqliteMc.Model.Engine
import SqliteMc.Model.PageCipher

/-!
# Setting up a cipher

What `PRAGMA key` and `PRAGMA rekey` do before the first page: the cipher is allocated from the
parameters of the connection, and its key is generated from the password. A new key comes with a
new salt, the key of a file that is opened with the 16 bytes that the file begins with.

* `generateKey_generateKey`: whoever has the password and the salt generates the same key again.
* `key_generateKey`: the key is derived from the password and the salt, unless the password
  `bypassesDerivation`.
-/

namespace SqliteMc

namespace Native

open Buffer ChaCha20

-- ---------------------------------------------------------------------------
-- Salts and raw keys
-- ---------------------------------------------------------------------------

/-- An array of `KEYSALT_LENGTH` bytes. -/
abbrev Salt := { salt : Bytes // salt.length = 16 }

/-- `mcReadDatabaseHeader`: what a file begins with, if it is long enough. -/
def readDatabaseHeader (file : Bytes) : Option Salt :=
  if h : 16 ≤ file.length then some ⟨file.take 16, by rw [List.length_take]; omega⟩ else none

/-- The salt of a key, and whether it is the one that was given: `rekey || cipherSalt == NULL`
draws a new one. -/
def chooseSalt (rekey : Bool) (cipherSalt : Option Salt) (g : Rng) : Salt × Bool × Rng :=
  match rekey, cipherSalt with
  | false, some salt => (salt, true, g)
  | _, _ => (⟨(g.next 16).1, Rng.length_next g 16⟩, false, (g.next 16).2)

/-- What `GenerateKey…` of ChaCha20, SQLCipher and Ascon begin with: a salt, and the key and the
salt of a password that is a raw key. -/
def rawKey (password : Bytes) (rekey : Bool) (cipherSalt : Option Salt) (key : Bytes) (g : Rng) :
    RawKey × Rng :=
  let chosen := chooseSalt rekey cipherSalt g
  (extractRawKey password chosen.2.1 32 16 key chosen.1, chosen.2.2)

theorem length_salt_rawKey (password : Bytes) (rekey : Bool) (cipherSalt : Option Salt)
    (key : Bytes) (g : Rng) : (rawKey password rekey cipherSalt key g).1.salt.length = 16 := by
  have hsalt := (chooseSalt rekey cipherSalt g).1.2
  have hlen := length_salt_extractRawKey password (chooseSalt rekey cipherSalt g).2.1 32 key
    (chooseSalt rekey cipherSalt g).1
  rw [hsalt] at hlen
  exact hlen

/-- With the salt it chose, what the functions begin with comes out again. -/
theorem rawKey_rawKey {password : Bytes} {rekey : Bool} {cipherSalt header : Option Salt}
    {key : Bytes} {g : Rng}
    (h : header.map Subtype.val = some (rawKey password rekey cipherSalt key g).1.salt) (g' : Rng) :
    let r := (rawKey password rekey cipherSalt key g).1
    let r' := (rawKey password false header key g').1
    r'.bypass = r.bypass ∧ r'.salt = r.salt ∧ (r.bypass = true → r'.key = r.key) := by
  -- the header holds the salt that was written, which is what the second call reads
  obtain ⟨salt, rfl, hval⟩ := Option.map_eq_some_iff.mp h
  have hagain : (rawKey password false (some salt) key g').1 = extractRawKey password true 32 16 key
      (rawKey password rekey cipherSalt key g).1.salt := by
    rw [← hval]
    rfl
  dsimp only
  rw [hagain]
  exact extractRawKey_extractRawKey password _ 32 16 key key _

/-- `bypass`, which three of the ciphers ask for: the password is a raw key. -/
def bypassesDerivation (cipher : Cipher) (password : Bytes) : Bool :=
  match cipher with
  | .chacha20 | .sqlcipher | .ascon128 =>
    (extractRawKey password false 32 16 (zeros 32) (zeros 16)).bypass
  | _ => false

/-- The passwords that are raw keys: `raw:` and a key, or a key and a salt, as bytes or digits. -/
theorem bypassesDerivation_iff (cipher : Cipher) (password : Bytes) :
    bypassesDerivation cipher password = true ↔
      (cipher = .chacha20 ∨ cipher = .sqlcipher ∨ cipher = .ascon128) ∧
        ∃ zRaw, password = rawPrefix ++ zRaw ∧ (zRaw.length = 48 ∨ zRaw.length = 32 ∨
          isHexKey zRaw = true ∧ (zRaw.length = 64 ∨ zRaw.length = 96)) := by
  have hiff := bypass_extractRawKey (by decide : 0 < 32) password false 16 (zeros 32) (zeros 16)
  cases cipher <;> simp [bypassesDerivation, hiff]

/-- Neither the salt nor what the cipher held before has a say in it. -/
theorem bypass_rawKey (password : Bytes) (rekey : Bool) (cipherSalt : Option Salt) (key : Bytes)
    (g : Rng) : (rawKey password rekey cipherSalt key g).1.bypass =
      (extractRawKey password false 32 16 (zeros 32) (zeros 16)).bypass := by
  rw [Bool.eq_iff_iff, rawKey, bypass_extractRawKey (by decide), bypass_extractRawKey (by decide)]

-- ---------------------------------------------------------------------------
-- Generating keys
-- ---------------------------------------------------------------------------

/-- `GenerateKeyChaCha20Cipher`. -/
def ChaCha20Cipher.generateKey (d : Digests) (c : ChaCha20Cipher) (password : Bytes) (rekey : Bool)
    (cipherSalt : Option Salt) (g : Rng) : ChaCha20Cipher × Rng :=
  let r := rawKey password rekey cipherSalt c.key g
  ({ c with
     key := if r.1.bypass then r.1.key else d.pbkdf2 1 password r.1.salt c.kdfIter
     salt := r.1.salt
     length_salt := length_salt_rawKey password rekey cipherSalt c.key g }, r.2)

/-- `GenerateKeySQLCipherCipher`. The key of the tags is derived in any case. -/
def SQLCipherCipher.generateKey (d : Digests) (c : SQLCipherCipher) (password : Bytes)
    (rekey : Bool) (cipherSalt : Option Salt) (g : Rng) : SQLCipherCipher × Rng :=
  let r := rawKey password rekey cipherSalt c.key g
  let key := if r.1.bypass then r.1.key else d.pbkdf2 c.kdfAlgorithm password r.1.salt c.kdfIter
  let algorithm := if c.hmacAlgorithmCompat ≠ 0 then c.kdfAlgorithm else c.hmacAlgorithm
  let hmacSalt := r.1.salt.map (· ^^^ BitVec.ofNat 8 c.hmacSaltMask)
  ({ c with
     key := key
     salt := r.1.salt
     hmacKey := if c.hmacUse ≠ 0 then d.pbkdf2 algorithm key hmacSalt c.fastKdfIter else c.hmacKey
     length_salt := length_salt_rawKey password rekey cipherSalt c.key g }, r.2)

/-- `GenerateKeyAscon128Cipher`. -/
def Ascon128Cipher.generateKey (c : Ascon128Cipher) (password : Bytes) (rekey : Bool)
    (cipherSalt : Option Salt) (g : Rng) : Ascon128Cipher × Rng :=
  let r := rawKey password rekey cipherSalt c.key g
  ({ c with
     key := if r.1.bypass then r.1.key else Ascon.pbkdf2 password r.1.salt c.kdfIter
     salt := r.1.salt
     length_salt := length_salt_rawKey password rekey cipherSalt c.key g }, r.2)

namespace PageCipher

/-- `m_generateKey`. -/
def generateKey (d : Digests) (c : PageCipher) (password : Bytes) (rekey : Bool)
    (cipherSalt : Option Salt) (g : Rng) : PageCipher × Rng :=
  match c with
  | aes128 c => (aes128 (c.generateKey d password), g)
  | aes256 c => (aes256 (c.generateKey d password), g)
  | chacha20 c =>
    let r := c.generateKey d password rekey cipherSalt g
    (chacha20 r.1, r.2)
  | sqlcipher c =>
    let r := c.generateKey d password rekey cipherSalt g
    (sqlcipher r.1, r.2)
  | rc4 c => (rc4 (c.generateKey d password), g)
  | ascon128 c =>
    let r := c.generateKey password rekey cipherSalt g
    (ascon128 r.1, r.2)

/-- The name under which the driver knows the cipher. -/
def cipher : PageCipher → Cipher
  | aes128 _ => .aes128cbc
  | aes256 _ => .aes256cbc
  | chacha20 _ => .chacha20
  | sqlcipher _ => .sqlcipher
  | rc4 _ => .rc4
  | ascon128 _ => .ascon128

/-- `m_key`. -/
def key : PageCipher → Bytes
  | aes128 c => c.key
  | aes256 c => c.key
  | chacha20 c => c.key
  | sqlcipher c => c.key
  | rc4 c => c.key
  | ascon128 c => c.key

/-- The key that the cipher derives from a password under its salt. -/
def derivedKey (d : Digests) (c : PageCipher) (password : Bytes) : Bytes :=
  match c with
  | aes128 c => (c.generateKey d password).key
  | aes256 c => (c.generateKey d password).key
  | chacha20 c => d.pbkdf2 1 password c.salt c.kdfIter
  | sqlcipher c => d.pbkdf2 c.kdfAlgorithm password c.salt c.kdfIter
  | rc4 c => (c.generateKey d password).key
  | ascon128 c => Ascon.pbkdf2 password c.salt c.kdfIter

variable {d : Digests} {c : PageCipher} {password : Bytes}

/-- Keying does not change the kind of the cipher. -/
@[simp] theorem cipher_generateKey (rekey : Bool) (cipherSalt : Option Salt) (g : Rng) :
    (c.generateKey d password rekey cipherSalt g).1.cipher = c.cipher := by
  cases c <;> simp only [generateKey, cipher]

/-- Keying does not change the page size that the cipher asks for. -/
@[simp] theorem getPageSize_generateKey (rekey : Bool) (cipherSalt : Option Salt) (g : Rng) :
    (c.generateKey d password rekey cipherSalt g).1.getPageSize = c.getPageSize := by
  cases c <;> simp only [generateKey, getPageSize, AES128Cipher.generateKey,
    AES256Cipher.generateKey, ChaCha20Cipher.generateKey, SQLCipherCipher.generateKey,
    RC4Cipher.generateKey]

/-- Keying does not change the number of bytes that the cipher reserves. -/
@[simp] theorem getReserved_generateKey (rekey : Bool) (cipherSalt : Option Salt) (g : Rng) :
    (c.generateKey d password rekey cipherSalt g).1.getReserved = c.getReserved := by
  cases c <;> simp only [generateKey, getReserved, SQLCipherCipher.generateKey,
    SQLCipherCipher.getReserved]

/-- The key is derived, unless the password is a raw key of the cipher. -/
theorem key_generateKey (h : bypassesDerivation c.cipher password = false) (rekey : Bool)
    (cipherSalt : Option Salt) (g : Rng) :
    let c' := (c.generateKey d password rekey cipherSalt g).1
    c'.key = c'.derivedKey d password := by
  -- what does not bypass the derivation does not bypass it with any other salt or key
  have hbypass (key : Bytes) (h : (extractRawKey password false 32 16 (zeros 32) (zeros 16)).bypass =
      false) : ¬ (rawKey password rekey cipherSalt key g).1.bypass = true := by
    rw [bypass_rawKey, h]
    exact Bool.false_ne_true
  cases c with
  | chacha20 c => exact if_neg (hbypass c.key h)
  | sqlcipher c => exact if_neg (hbypass c.key h)
  | ascon128 c => exact if_neg (hbypass c.key h)
  | aes128 c => simp only [generateKey, key, derivedKey, AES128Cipher.generateKey]
  | aes256 c => simp only [generateKey, key, derivedKey, AES256Cipher.generateKey]
  | rc4 c => simp only [generateKey, key, derivedKey, RC4Cipher.generateKey]

/-- What the cipher asks the salt of a file for: with the salt of the key, or for a cipher without
one, the same key is generated again. -/
theorem generateKey_generateKey (rekey : Bool) (cipherSalt header : Option Salt) (g g' : Rng)
    (hheader : ∀ salt, (c.generateKey d password rekey cipherSalt g).1.getSalt = some salt →
      header.map Subtype.val = some salt) :
    (c.generateKey d password false header g').1 =
      (c.generateKey d password rekey cipherSalt g).1 := by
  -- the key is the raw one in both, or derived under one salt
  have hkey {b b' : Bool} {k k' derived derived' : Bytes} (hb : b' = b) (hk : b = true → k' = k)
      (hd : derived' = derived) : (if b' then k' else derived') = if b then k else derived := by
    subst hb hd
    cases b' with
    | false => rfl
    | true => exact hk rfl
  cases c with
  | chacha20 c =>
    obtain ⟨hb, hs, hk⟩ := rawKey_rawKey (hheader _ rfl) g'
    simp only [generateKey, ChaCha20Cipher.generateKey, hs]
    rw [hkey hb hk rfl]
  | sqlcipher c =>
    obtain ⟨hb, hs, hk⟩ := rawKey_rawKey (hheader _ rfl) g'
    simp only [generateKey, SQLCipherCipher.generateKey, hs]
    rw [hkey hb hk rfl]
  | ascon128 c =>
    obtain ⟨hb, hs, hk⟩ := rawKey_rawKey (hheader _ rfl) g'
    simp only [generateKey, Ascon128Cipher.generateKey, hs]
    rw [hkey hb hk rfl]
  | _ => simp only [generateKey]

-- ---------------------------------------------------------------------------
-- Allocation
-- ---------------------------------------------------------------------------

end PageCipher

/-- `sqlite3mcGetCipherParameter`. -/
def parameter (c : Engine.CodecCipher) (p : CipherParam) : Nat := ((c.param p).getD (-1)).toNat

/-- A parameter that the table shows is the one in the cipher structure. -/
theorem parameter_eq {c : Engine.CodecCipher} {p : CipherParam} {n : Int} (h : c.param p = some n) :
    parameter c p = n.toNat := by
  rw [parameter, h]
  rfl

/-- `m_allocateCipher`. The header sizes are within the bounds that the parameter tables have for
them; a codec of other parameters does not exist. -/
def PageCipher.allocate (c : Engine.CodecCipher) : Option PageCipher :=
  let legacy := parameter c .legacy
  let legacyPageSize := parameter c .legacyPageSize
  let kdfIter := parameter c .kdfIter
  let plaintextHeaderSize := parameter c .plaintextHeaderSize
  match c.cipher with
  | .aes128cbc => some (.aes128 ⟨legacy, legacyPageSize, zeros 16⟩)
  | .aes256cbc => some (.aes256 ⟨legacy, legacyPageSize, kdfIter, zeros 32⟩)
  | .chacha20 =>
    if h : plaintextHeaderSize ≤ 100 then
      some (.chacha20 ⟨legacy, legacyPageSize, kdfIter, plaintextHeaderSize, zeros 32, zeros 16,
        List.length_replicate, h⟩)
    else none
  | .sqlcipher =>
    if h : plaintextHeaderSize ≤ 100 ∧ (0 < plaintextHeaderSize → 4 ≤ legacy) then
      some (.sqlcipher ⟨legacy, legacyPageSize, kdfIter, parameter c .fastKdfIter,
        parameter c .hmacUse, parameter c .hmacPgno, parameter c .hmacSaltMask,
        parameter c .kdfAlgorithm, parameter c .hmacAlgorithm, parameter c .hmacAlgorithmCompat,
        plaintextHeaderSize, zeros 32, zeros 16, zeros 32, List.length_replicate, h.1, h.2⟩)
    else none
  | .rc4 => some (.rc4 ⟨legacy, legacyPageSize, zeros 16⟩)
  | .ascon128 =>
    if h : plaintextHeaderSize ≤ 100 then
      some (.ascon128 ⟨kdfIter, plaintextHeaderSize, zeros 32, zeros 16, List.length_replicate, h⟩)
    else none

end Native

end SqliteMc
