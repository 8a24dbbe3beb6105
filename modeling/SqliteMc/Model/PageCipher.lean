import SqliteMc.Model.CodecAlgos
import SqliteMc.Model.Poly1305
import SqliteMc.Model.Ascon
import SqliteMc.Model.CipherConfig

/-!
# Page ciphers

The six ciphers behind the descriptor table of the codec: their structures, the number of bytes
they reserve at the end of a page, the key they generate, and the encryption and the decryption
of one page. A page is the buffer that the function works on; where the source writes a random
nonce, the state of the generator is passed along.
-/

namespace SqliteMc

namespace Native

open Buffer ChaCha20

/-- `SQLITE_FILE_HEADER` with its terminator. -/
def fileHeader : Bytes :=
  [0x53, 0x51, 0x4c, 0x69, 0x74, 0x65, 0x20, 0x66, 0x6f, 0x72, 0x6d, 0x61, 0x74, 0x20, 0x33, 0x00]

/-- `(dbHeader[0] << 8) | (dbHeader[1] << 16)` of the header bytes from 16 on. -/
def dbPageSize (dbHeader : Bytes) : Nat :=
  (byte dbHeader 0).toNat <<< 8 ||| (byte dbHeader 1).toNat <<< 16

/-- The test of the header bytes 16 to 23. -/
def validHeader (dbHeader : Bytes) : Bool :=
  decide (512 ≤ dbPageSize dbHeader) && decide (dbPageSize dbHeader ≤ 65536)
    && ((dbPageSize dbHeader - 1) &&& dbPageSize dbHeader == 0)
    && byte dbHeader 5 == 0x40 && byte dbHeader 6 == 0x20 && byte dbHeader 7 == 0x20

/-- The page size of a cipher in legacy mode, zero if it is none. -/
def legacyPageSize (legacy pageSize : Nat) : Nat :=
  if legacy ≠ 0 then
    if pageSize < 512 ∨ 65536 < pageSize ∨ (pageSize - 1) &&& pageSize ≠ 0 then 0 else pageSize
  else 0

/-- The result for a page that does not fit or is not authentic. -/
def badPage (page : Nat) : Rc := if page = 1 then .notadb else .corrupt

/-- The first 16 bytes of page 1, unless the header is kept in plain text. -/
def putFirst (page : Nat) (usePlaintextHeader : Bool) (first data : Bytes) : Bytes :=
  if page = 1 ∧ usePlaintextHeader = false then patch data 0 first else data

-- ---------------------------------------------------------------------------
-- AES of wxSQLite3
-- ---------------------------------------------------------------------------

structure AES128Cipher where
  legacy : Nat
  legacyPageSize : Nat
  key : Bytes

structure AES256Cipher where
  legacy : Nat
  legacyPageSize : Nat
  kdfIter : Nat
  key : Bytes

/-- `EncryptPageAES128Cipher` and `EncryptPageAES256Cipher` with the AES function of each. -/
def encryptPageAES (aes : Bytes → Bytes) (legacy page : Nat) (data : Bytes) : Bytes :=
  if legacy ≠ 0 then aes data
  else if page = 1 then
    let dbHeader := slice data 16 8
    let data := inPlace aes 0 16 data
    let data := inPlace aes 16 data.length data
    -- the encrypted header bytes 16 to 23 are moved to a safe position
    let data := patch data 8 (slice data 16 8)
    patch data 16 dbHeader
  else aes data

/-- `DecryptPageAES128Cipher` and `DecryptPageAES256Cipher`. A first page without the header
bytes in plain text follows the previous scheme. -/
def decryptPageAES (aes : Bytes → Bytes) (legacy page : Nat) (data : Bytes) : Bytes :=
  if legacy ≠ 0 then aes data
  else if page = 1 then
    let dbHeader := slice data 16 8
    if validHeader dbHeader then
      let data := patch data 16 (slice data 8 8)
      let data := inPlace aes 16 data.length data
      if slice data 16 8 = dbHeader then patch data 0 fileHeader else data
    else aes data
  else aes data

namespace AES128Cipher

/-- `GenerateKeyAES128Cipher`. -/
def generateKey (d : Digests) (c : AES128Cipher) (password : Bytes) : AES128Cipher :=
  let userPad := padPassword password
  let digest := d.md5^[51] (padPassword [])
  let ownerKey := (List.range 20).foldl
    (fun ownerKey i => rc4 (digest.map fun x => x ^^^ BitVec.ofNat 8 i) ownerKey) userPad
  { c with key := d.md5^[51] (userPad ++ ownerKey) }

def encryptPage (d : Digests) (c : AES128Cipher) (page : Nat) (data : Bytes) : Bytes :=
  encryptPageAES (aesEncrypt 4 d.md5 d page c.key) c.legacy page data

def decryptPage (d : Digests) (c : AES128Cipher) (page : Nat) (data : Bytes) : Bytes :=
  decryptPageAES (aesDecrypt 4 d.md5 d page c.key) c.legacy page data

end AES128Cipher

namespace AES256Cipher

/-- `GenerateKeyAES256Cipher`, which does not look at `m_kdfIter`. -/
def generateKey (d : Digests) (c : AES256Cipher) (password : Bytes) : AES256Cipher :=
  { c with key := d.sha256^[4002] (padPassword password) }

def encryptPage (d : Digests) (c : AES256Cipher) (page : Nat) (data : Bytes) : Bytes :=
  encryptPageAES (aesEncrypt 8 d.sha256 d page c.key) c.legacy page data

def decryptPage (d : Digests) (c : AES256Cipher) (page : Nat) (data : Bytes) : Bytes :=
  decryptPageAES (aesDecrypt 8 d.sha256 d page c.key) c.legacy page data

end AES256Cipher

-- ---------------------------------------------------------------------------
-- RC4 of System.Data.SQLite
-- ---------------------------------------------------------------------------

structure RC4Cipher where
  legacy : Nat
  legacyPageSize : Nat
  key : Bytes

/-- `GenerateKeyRC4Cipher`. -/
def RC4Cipher.generateKey (d : Digests) (c : RC4Cipher) (password : Bytes) : RC4Cipher :=
  { c with key := (d.sha1 password).take 16 }

-- ---------------------------------------------------------------------------
-- ChaCha20 with Poly1305
-- ---------------------------------------------------------------------------

structure ChaCha20Cipher where
  legacy : Nat
  legacyPageSize : Nat
  kdfIter : Nat
  plaintextHeaderSize : Nat
  key : Bytes
  salt : Bytes
  length_salt : salt.length = 16
  plaintextHeaderSize_le : plaintextHeaderSize ≤ 100

namespace ChaCha20Cipher

/-- `PAGE_RESERVED_CHACHA20` unless a page has no reserved bytes. -/
def nReserved (c : ChaCha20Cipher) (reserved : Nat) : Nat :=
  if reserved = 0 ∧ c.legacy = 0 then 0 else 32

def usePlaintextHeader (c : ChaCha20Cipher) : Bool := decide (0 < c.plaintextHeaderSize)

/-- Where the encrypted part of a page starts. -/
def offset (c : ChaCha20Cipher) (page : Nat) : Nat :=
  if page = 1 then
    if 0 < c.plaintextHeaderSize then
      if c.legacy ≠ 0 then c.plaintextHeaderSize
      else if 24 < c.plaintextHeaderSize then c.plaintextHeaderSize else 24
    else if c.legacy ≠ 0 then 0 else 24
  else 0

/-- The reserved bytes do not suit the cipher. -/
def mismatch (c : ChaCha20Cipher) (reserved : Nat) : Prop :=
  (c.legacy = 0 ∧ reserved < c.nReserved reserved) ∨
    (c.legacy ≠ 0 ∧ c.nReserved reserved ≠ reserved)

instance (c : ChaCha20Cipher) (reserved : Nat) : Decidable (c.mismatch reserved) :=
  inferInstanceAs (Decidable (_ ∨ _))

/-- The counter of a page: `LOAD32_LE(nonce + 12) ^ page`. -/
def counter (nonce : Bytes) (page : Nat) : BitVec 32 :=
  load32LE nonce 12 ^^^ BitVec.ofNat 32 page

/-- `otk`. -/
def otk (c : ChaCha20Cipher) (nonce : Bytes) (page : Nat) : Bytes :=
  chacha20Xor (zeros 64) c.key nonce (counter nonce page)

/-- A part of a page under the second half of the one-time key. -/
def crypt (c : ChaCha20Cipher) (nonce : Bytes) (page : Nat) (part : Bytes) : Bytes :=
  chacha20Xor part ((c.otk nonce page).drop 32) nonce (counter nonce page + 1)

/-- `EncryptPageChaCha20Cipher`. -/
def encryptPage (d : Digests) (c : ChaCha20Cipher) (page : Nat) (data : Bytes) (reserved : Nat)
    (g : Rng) : Rc × Bytes × Rng :=
  let n := data.length - c.nReserved reserved
  let offset := c.offset page
  if c.mismatch reserved then (.corrupt, data, g)
  else if 0 < c.nReserved reserved then
    let nonce := (g.next 16).1
    let data := patch data n nonce
    let data := inPlace (c.crypt nonce page) offset n data
    let data := putFirst page c.usePlaintextHeader c.salt data
    let data := patch data (n + 16) (poly1305 (slice data 0 (n + 16)) (c.otk nonce page))
    (.ok, data, (g.next 16).2)
  else
    let nonce := generateInitialVector d page
    let data := inPlace (c.crypt nonce page) offset n data
    (.ok, putFirst page c.usePlaintextHeader c.salt data, g)

/-- `DecryptPageChaCha20Cipher`. The page is decrypted even if its tag is wrong. -/
def decryptPage (d : Digests) (c : ChaCha20Cipher) (page : Nat) (data : Bytes) (reserved : Nat)
    (hmacCheck : Nat) : Rc × Bytes :=
  let n := data.length - c.nReserved reserved
  let offset := c.offset page
  if c.mismatch reserved then (badPage page, data)
  else if 0 < c.nReserved reserved then
    let nonce := slice data n 16
    let tag := poly1305 (slice data 0 (n + 16)) (c.otk nonce page)
    let data' := inPlace (c.crypt nonce page) offset n data
    if hmacCheck ≠ 0 ∧ poly1305Tagcmp (slice data (n + 16) 16) tag ≠ 0 then (badPage page, data')
    else (.ok, putFirst page c.usePlaintextHeader fileHeader data')
  else
    let nonce := generateInitialVector d page
    let data := inPlace (c.crypt nonce page) offset n data
    (.ok, putFirst page c.usePlaintextHeader fileHeader data)

end ChaCha20Cipher

-- ---------------------------------------------------------------------------
-- SQLCipher
-- ---------------------------------------------------------------------------

structure SQLCipherCipher where
  legacy : Nat
  legacyPageSize : Nat
  kdfIter : Nat
  fastKdfIter : Nat
  hmacUse : Nat
  hmacPgno : Nat
  hmacSaltMask : Nat
  kdfAlgorithm : Nat
  hmacAlgorithm : Nat
  hmacAlgorithmCompat : Nat
  plaintextHeaderSize : Nat
  key : Bytes
  salt : Bytes
  hmacKey : Bytes
  length_salt : salt.length = 16
  plaintextHeaderSize_le : plaintextHeaderSize ≤ 100
  /-- The header size is read from the parameters from version 4 on only. -/
  legacy_of_plaintextHeader : 0 < plaintextHeaderSize → 4 ≤ legacy

namespace SQLCipherCipher

/-- `GetReservedSQLCipherCipher`. -/
def getReserved (c : SQLCipherCipher) : Nat :=
  if c.hmacUse ≠ 0 then
    if c.hmacAlgorithm = 0 ∨ c.hmacAlgorithm = 1 then 16 + 32 else 16 + 64
  else 16

def nReserved (c : SQLCipherCipher) (reserved : Nat) : Nat :=
  if reserved = 0 ∧ c.legacy = 0 then 0 else c.getReserved

def usePlaintextHeader (c : SQLCipherCipher) : Bool := decide (0 < c.plaintextHeaderSize)

def offset (c : SQLCipherCipher) (page : Nat) : Nat :=
  if page = 1 then
    if 0 < c.plaintextHeaderSize ∧ 4 ≤ c.legacy then c.plaintextHeaderSize
    else if c.legacy ≠ 0 then 16 else 24
  else 0

def mismatch (c : SQLCipherCipher) (reserved : Nat) : Prop :=
  (c.legacy = 0 ∧ reserved < c.nReserved reserved) ∨
    (c.legacy ≠ 0 ∧ c.nReserved reserved ≠ reserved)

instance (c : SQLCipherCipher) (reserved : Nat) : Decidable (c.mismatch reserved) :=
  inferInstanceAs (Decidable (_ ∨ _))

/-- `pgno_raw`; the machine's own order is little-endian. -/
def pgnoRaw (c : SQLCipherCipher) (page : Nat) : Bytes :=
  if c.hmacPgno = 2 then store32BE (BitVec.ofNat 32 page) else store32LE (BitVec.ofNat 32 page)

/-- `sqlcipher_hmac` of a part of a page and its number. -/
def hmac (d : Digests) (c : SQLCipherCipher) (page : Nat) (part : Bytes) : Bytes :=
  d.hmac c.hmacAlgorithm c.hmacKey (part ++ c.pgnoRaw page)

/-- `EncryptPageSQLCipherCipher`. -/
def encryptPage (d : Digests) (c : SQLCipherCipher) (page : Nat) (data : Bytes) (reserved : Nat)
    (g : Rng) : Rc × Bytes × Rng :=
  let nReserved := c.nReserved reserved
  let n := data.length - nReserved
  let offset := c.offset page
  if c.mismatch reserved then (.corrupt, data, g)
  else
    let iv := if 0 < nReserved then (g.next 128).1 else generateInitialVector d page
    let g := if 0 < nReserved then (g.next 128).2 else g
    let data := inPlace (Rijndael.blockEncrypt 8 c.key (iv.take 16)) offset n data
    let data := if 0 < nReserved then patch data n (iv.take nReserved) else data
    let data := putFirst page c.usePlaintextHeader c.salt data
    if c.hmacUse = 1 ∧ 0 < nReserved then
      (.ok, patch data (n + 16) (c.hmac d page (slice data offset (n + 16 - offset))), g)
    else (.ok, data, g)

/-- `DecryptPageSQLCipherCipher`. A page with a wrong tag is left as it is. -/
def decryptPage (d : Digests) (c : SQLCipherCipher) (page : Nat) (data : Bytes) (reserved : Nat)
    (hmacCheck : Nat) : Rc × Bytes :=
  let nReserved := c.nReserved reserved
  let n := data.length - nReserved
  let offset := c.offset page
  if c.mismatch reserved then (badPage page, data)
  else
    let iv := if 0 < nReserved then slice data n nReserved else generateInitialVector d page
    let hmacOut := c.hmac d page (slice data offset (n + 16 - offset))
    if c.hmacUse = 1 ∧ 0 < nReserved ∧ hmacCheck ≠ 0 ∧
        slice data (n + 16) hmacOut.length ≠ hmacOut then (badPage page, data)
    else
      let data := inPlace (Rijndael.blockDecrypt 8 c.key (iv.take 16)) offset n data
      let data := if 0 < nReserved then patch data n iv else data
      (.ok, putFirst page c.usePlaintextHeader fileHeader data)

end SQLCipherCipher

-- ---------------------------------------------------------------------------
-- Ascon
-- ---------------------------------------------------------------------------

structure Ascon128Cipher where
  kdfIter : Nat
  plaintextHeaderSize : Nat
  key : Bytes
  salt : Bytes
  length_salt : salt.length = 16
  plaintextHeaderSize_le : plaintextHeaderSize ≤ 100

namespace Ascon128Cipher

def nReserved (reserved : Nat) : Nat := if reserved = 0 then 0 else 32

def usePlaintextHeader (c : Ascon128Cipher) : Bool := decide (0 < c.plaintextHeaderSize)

def offset (c : Ascon128Cipher) (page : Nat) : Nat :=
  if page = 1 then
    if 0 < c.plaintextHeaderSize then
      if 24 < c.plaintextHeaderSize then c.plaintextHeaderSize else 24
    else 24
  else 0

/-- `AsconGenOtk`. -/
def otk (c : Ascon128Cipher) (nonce : Bytes) (page : Nat) : Bytes :=
  Ascon.hash (c.key ++ nonce ++ store32BE (BitVec.ofNat 32 page))

/-- `EncryptPageAscon128Cipher`. -/
def encryptPage (d : Digests) (c : Ascon128Cipher) (page : Nat) (data : Bytes) (reserved : Nat)
    (g : Rng) : Rc × Bytes × Rng :=
  let n := data.length - nReserved reserved
  let offset := c.offset page
  if reserved < nReserved reserved then (.corrupt, data, g)
  else if 0 < nReserved reserved then
    let nonce := (g.next 16).1
    let data := patch data (n + 16) nonce
    let text := Ascon.aeadEncrypt (slice data offset (n - offset)) [] nonce (c.otk nonce page)
    let data := patch (patch data offset text.1) n text.2
    (.ok, putFirst page c.usePlaintextHeader c.salt data, (g.next 16).2)
  else
    let nonce := generateInitialVector d page
    let text := Ascon.aeadEncrypt (slice data offset (n - offset)) [] nonce (c.otk nonce page)
    (.ok, putFirst page c.usePlaintextHeader c.salt (patch data offset text.1), g)

/-- `DecryptPageAscon128Cipher`. The page is decrypted even if its tag is wrong. -/
def decryptPage (d : Digests) (c : Ascon128Cipher) (page : Nat) (data : Bytes) (reserved : Nat)
    (hmacCheck : Nat) : Rc × Bytes :=
  let n := data.length - nReserved reserved
  let offset := c.offset page
  if reserved < nReserved reserved then (badPage page, data)
  else if 0 < nReserved reserved then
    let nonce := slice data (n + 16) 16
    let text := Ascon.aeadDecrypt (slice data offset (n - offset)) [] (slice data n 16) nonce
      (c.otk nonce page)
    let data := patch data offset text.1
    if hmacCheck ≠ 0 ∧ text.2 ≠ 0 then (badPage page, data)
    else (.ok, putFirst page c.usePlaintextHeader fileHeader data)
  else
    let nonce := generateInitialVector d page
    let text := Ascon.aeadDecrypt (slice data offset (n - offset)) [] (zeros 16) nonce
      (c.otk nonce page)
    (.ok, putFirst page c.usePlaintextHeader fileHeader (patch data offset text.1))

end Ascon128Cipher

-- ---------------------------------------------------------------------------
-- The descriptor table
-- ---------------------------------------------------------------------------

/-- A cipher of the codec, with the structure that its descriptor allocates. -/
inductive PageCipher where
  | aes128 (c : AES128Cipher)
  | aes256 (c : AES256Cipher)
  | chacha20 (c : ChaCha20Cipher)
  | sqlcipher (c : SQLCipherCipher)
  | rc4 (c : RC4Cipher)
  | ascon128 (c : Ascon128Cipher)

namespace PageCipher

/-- `m_getLegacy`. -/
def getLegacy : PageCipher → Nat
  | aes128 c => c.legacy
  | aes256 c => c.legacy
  | chacha20 c => c.legacy
  | sqlcipher c => c.legacy
  | rc4 c => c.legacy
  | ascon128 _ => 0

/-- `m_getPageSize`. -/
def getPageSize : PageCipher → Nat
  | aes128 c => Native.legacyPageSize c.legacy c.legacyPageSize
  | aes256 c => Native.legacyPageSize c.legacy c.legacyPageSize
  | chacha20 c => Native.legacyPageSize c.legacy c.legacyPageSize
  | sqlcipher c => Native.legacyPageSize c.legacy c.legacyPageSize
  | rc4 c => Native.legacyPageSize c.legacy c.legacyPageSize
  | ascon128 _ => 0

/-- `m_getReserved`. -/
def getReserved : PageCipher → Nat
  | aes128 _ => 0
  | aes256 _ => 0
  | chacha20 _ => 32
  | sqlcipher c => c.getReserved
  | rc4 _ => 0
  | ascon128 _ => 32

/-- `m_getSalt`. -/
def getSalt : PageCipher → Option Bytes
  | aes128 _ => none
  | aes256 _ => none
  | chacha20 c => some c.salt
  | sqlcipher c => some c.salt
  | rc4 _ => none
  | ascon128 c => some c.salt

/-- `m_encryptPage`. -/
def encryptPage (d : Digests) (c : PageCipher) (page : Nat) (data : Bytes) (reserved : Nat)
    (g : Rng) : Rc × Bytes × Rng :=
  match c with
  | aes128 c => (.ok, c.encryptPage d page data, g)
  | aes256 c => (.ok, c.encryptPage d page data, g)
  | chacha20 c => c.encryptPage d page data reserved g
  | sqlcipher c => c.encryptPage d page data reserved g
  | rc4 c => (.ok, Native.rc4 c.key data, g)
  | ascon128 c => c.encryptPage d page data reserved g

/-- `m_decryptPage`. -/
def decryptPage (d : Digests) (c : PageCipher) (page : Nat) (data : Bytes) (reserved : Nat)
    (hmacCheck : Nat) : Rc × Bytes :=
  match c with
  | aes128 c => (.ok, c.decryptPage d page data)
  | aes256 c => (.ok, c.decryptPage d page data)
  | chacha20 c => c.decryptPage d page data reserved hmacCheck
  | sqlcipher c => c.decryptPage d page data reserved hmacCheck
  | rc4 c => (.ok, Native.rc4 c.key data)
  | ascon128 c => c.decryptPage d page data reserved hmacCheck

end PageCipher

end Native

end SqliteMc
