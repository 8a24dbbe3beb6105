import SqliteMc.Model.PageRoundTrip

/-!
# The codec

The codec of a database file: one cipher to read with and one to write with, which differ while
the database is being rekeyed. `sqlite3mcCodec` is what the file layer calls for a page; the
other functions set the two ciphers up, copy one to the other and settle the reserved bytes.

A rekeying is two functions of the codec: `beginRekey` before the pages are rewritten and
`endRekey` when they are, or when the transaction was rolled back.
-/

namespace SqliteMc

namespace Native

open Buffer ChaCha20

/-- `Codec`, with the page size of the shared B-tree it belongs to and the error code of that
B-tree's pager, which the codec sets. -/
structure Codec where
  isEncrypted : Bool
  hmacCheck : Nat
  walLegacy : Nat
  hasReadCipher : Bool
  readCipher : Option PageCipher
  readReserved : Int
  hasWriteCipher : Bool
  writeCipher : Option PageCipher
  writeReserved : Int
  pageSize : Nat
  reserved : Nat
  lastError : Rc
  pagerError : Rc

namespace Codec

/-- `sqlite3mcCodecInit` for a B-tree with the page size. -/
def init (pageSize : Nat) : Codec where
  isEncrypted := false
  hmacCheck := 1
  walLegacy := 0
  hasReadCipher := false
  readCipher := none
  readReserved := -1
  hasWriteCipher := false
  writeCipher := none
  writeReserved := -1
  pageSize := pageSize
  reserved := 0
  lastError := .ok
  pagerError := .ok

/-- The reserved bytes that a side of the codec works with: its own, or those of the codec. -/
def sideReserved (own : Int) (reserved : Nat) : Nat := if 0 ≤ own then own.toNat else reserved

/-- The cipher a page is encrypted with. -/
def cipherFor (c : Codec) (useWriteKey : Bool) : Option PageCipher :=
  if useWriteKey then c.writeCipher else c.readCipher

def reservedFor (c : Codec) (useWriteKey : Bool) : Nat :=
  sideReserved (if useWriteKey then c.writeReserved else c.readReserved) c.reserved

/-- `sqlite3mcEncrypt`. -/
def encrypt (d : Digests) (c : Codec) (page : Nat) (data : Bytes) (useWriteKey : Bool) (g : Rng) :
    Rc × Bytes × Rng :=
  match c.cipherFor useWriteKey with
  | some cipher => cipher.encryptPage d page data (c.reservedFor useWriteKey) g
  -- a codec that says it has a cipher has one
  | none => (.error, data, g)

/-- `sqlite3mcDecrypt`. -/
def decrypt (d : Digests) (c : Codec) (page : Nat) (data : Bytes) : Rc × Bytes :=
  match c.readCipher with
  | some cipher => cipher.decryptPage d page data (c.reservedFor false) c.hmacCheck
  | none => (.error, data)

/-- `mcReportCodecError`: an error also puts the pager into its error state. -/
def report (c : Codec) (rc : Rc) : Codec := { c with pagerError := rc }

/-- `sqlite3mcCodec` in the modes 0, 2 and 3: a page is loaded. What could not be decrypted is
replaced by zeros. -/
def load (d : Digests) (c : Codec) (data : Bytes) (page : Nat) : Bytes × Codec :=
  if c.isEncrypted = false then (data, { c with lastError := .ok })
  else if c.hasReadCipher = false then (data, { c with lastError := .ok })
  else
    let r := c.decrypt d page data
    if r.1 = .ok then (r.2, { c with lastError := .ok })
    else (zeros c.pageSize, { c.report r.1 with lastError := r.1 })

/-- `sqlite3mcCodec` in the modes 6 (the database file, under the write key) and 7 (a journal,
under the read key). The caller gets the page whatever the result. -/
def store (d : Digests) (c : Codec) (data : Bytes) (page : Nat) (useWriteKey : Bool) (g : Rng) :
    Bytes × Codec × Rng :=
  if c.isEncrypted = false then (data, { c with lastError := .ok }, g)
  else if (if useWriteKey then c.hasWriteCipher else c.hasReadCipher) = false then
    (data, { c with lastError := .ok }, g)
  else
    let r := c.encrypt d page data useWriteKey g
    if r.1 = .ok then (r.2.1, { c with lastError := .ok }, r.2.2)
    else (r.2.1, { c.report r.1 with lastError := r.1 }, r.2.2)

-- ---------------------------------------------------------------------------
-- Setting up
-- ---------------------------------------------------------------------------

/-- `sqlite3mcCodecSetup` with the cipher that was allocated and has generated its key. -/
def setup (c : Codec) (hmacCheck walLegacy : Nat) (cipher : PageCipher) : Codec :=
  { c with
    isEncrypted := true
    hmacCheck := hmacCheck
    walLegacy := walLegacy
    hasReadCipher := true
    readCipher := some cipher
    hasWriteCipher := true
    writeCipher := some cipher }

/-- `sqlite3mcSetupWriteCipher` likewise. -/
def setupWriteCipher (c : Codec) (hmacCheck walLegacy : Nat) (cipher : PageCipher) : Codec :=
  { c with
    isEncrypted := true
    hmacCheck := hmacCheck
    walLegacy := walLegacy
    hasWriteCipher := true
    writeCipher := some cipher }

/-- `sqlite3mcCopyCipher`. -/
def copyCipher (c : Codec) (read2write : Bool) : Codec :=
  if read2write then { c with writeCipher := c.readCipher } else { c with readCipher := c.writeCipher }

/-- `sqlite3mcGetReservedWriteCipher`. -/
def reservedWriteCipher (c : Codec) : Int :=
  match c.hasWriteCipher, c.writeCipher with
  | true, some cipher => cipher.getReserved
  | _, _ => -1

/-- `sqlite3mcCodecSizeChange`. -/
def sizeChange (c : Codec) (reserved : Int) : Codec := { c with reserved := reserved.toNat }

/-- The codec that `sqlite3mcCodecAttach` sets for a key. -/
def attach (pageSize hmacCheck walLegacy : Nat) (cipher : PageCipher) : Codec :=
  let c := (init pageSize).setup hmacCheck walLegacy cipher
  c.sizeChange c.reservedWriteCipher

-- ---------------------------------------------------------------------------
-- Rekeying
-- ---------------------------------------------------------------------------

/-- What `sqlite3mcSetupWriteCipher` gets for a new key. -/
structure NewKey where
  hmacCheck : Nat
  walLegacy : Nat
  cipher : PageCipher

/-- The reserved bytes of the pages are to be changed: `VACUUM` reads and writes with
different numbers. -/
def setReserved (c : Codec) (readReserved writeReserved : Int) : Codec :=
  if readReserved = writeReserved then c
  else { c with readReserved := readReserved, writeReserved := writeReserved }

/-- The codec while `sqlite3_rekey_v2` rewrites the pages, of which the database reserves the
given number of bytes. -/
def beginRekey (pageSize nReserved : Nat) (codec : Option Codec) (key : Option NewKey) :
    Option Codec :=
  match codec.filter fun c => c.isEncrypted, key with
  | none, none => codec
  | none, some k =>
    -- the original database is not encrypted
    let c := { (codec.getD (init pageSize)).setupWriteCipher k.hmacCheck k.walLegacy k.cipher with
      hasReadCipher := false }
    some ((c.sizeChange c.reservedWriteCipher).setReserved nReserved c.reservedWriteCipher)
  | some c, none => some ({ c with hasWriteCipher := false }.setReserved nReserved 0)
  | some c, some k =>
    let c := c.setupWriteCipher k.hmacCheck k.walLegacy k.cipher
    some (c.setReserved nReserved c.reservedWriteCipher)

/-- The codec when the pages were rewritten, or the database was rolled back. -/
def endRekey (c : Codec) (committed : Bool) : Option Codec :=
  let c :=
    if committed then
      if c.hasWriteCipher then
        let c := { c.copyCipher false with hasReadCipher := true }
        c.sizeChange c.reservedWriteCipher
      else { c with isEncrypted := false }
    else if c.hasReadCipher then c.copyCipher true
    else { c with isEncrypted := false }
  -- a codec that does not encrypt is removed
  if c.isEncrypted then some { c with readReserved := -1, writeReserved := -1 } else none

/-- `sqlite3_rekey_v2` as far as the codec goes. -/
def rekey (pageSize nReserved : Nat) (codec : Option Codec) (key : Option NewKey)
    (committed : Bool) : Option Codec :=
  if (codec.filter fun c => c.isEncrypted) = none ∧ key.isNone then codec
  else (beginRekey pageSize nReserved codec key).bind fun c => c.endRekey committed

end Codec

end Native

end SqliteMc
