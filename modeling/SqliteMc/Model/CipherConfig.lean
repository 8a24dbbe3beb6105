import SqliteMc.Model.Builder

/-!
# Cipher configurations

`Cipher`, the parameter enumerations and the six `MCCipherConfig` classes with their
builders. Setters check their argument and throw `IllegalArgumentException`; presets and
`Builder(other)` write fields directly; `build` copies the fields, except that
`MCSqlCipherConfig` repairs its nullable fields for the legacy level.
-/

namespace SqliteMc

-- ---------------------------------------------------------------------------
-- Ciphers and enumerations
-- ---------------------------------------------------------------------------

inductive Cipher where
  | aes128cbc
  | aes256cbc
  | chacha20
  | sqlcipher
  | rc4
  | ascon128
  deriving DecidableEq, Repr

namespace Cipher

def name : Cipher → Text
  | aes128cbc => Text.lit "aes128cbc"
  | aes256cbc => Text.lit "aes256cbc"
  | chacha20 => Text.lit "chacha20"
  | sqlcipher => Text.lit "sqlcipher"
  | rc4 => Text.lit "rc4"
  | ascon128 => Text.lit "ascon128"

def all : List Cipher := [aes128cbc, aes256cbc, chacha20, sqlcipher, rc4, ascon128]

/-- The first cipher, in the order of the `when` branches, whose name equals `name`
ignoring case. -/
def valueOfOrNull (name : Text) : Option Cipher :=
  all.find? fun c => name.equalsIgnoreCase c.name

def valueOf (name : Text) : Except Throwable Cipher :=
  match valueOfOrNull name with
  | some c => .ok c
  | none => .error (.illegalArgument (Text.lit "Unknown cipher name >> " ++ name))

/-- A cipher is found under its own name. -/
theorem valueOfOrNull_name (c : Cipher) : valueOfOrNull c.name = some c := by
  cases c <;> decide +kernel

theorem isAscii_name (c : Cipher) : c.name.IsAscii := by
  cases c <;> exact Text.isAscii_of_all rfl

end Cipher

inductive HmacPngo where
  | native
  | littleEndian
  | bigEndian
  deriving DecidableEq, Repr

def HmacPngo.ordinal : HmacPngo → Int32
  | native => 0
  | littleEndian => 1
  | bigEndian => 2

inductive HmacAlgorithm where
  | sha1
  | sha256
  | sha512
  deriving DecidableEq, Repr

def HmacAlgorithm.ordinal : HmacAlgorithm → Int32
  | sha1 => 0
  | sha256 => 1
  | sha512 => 2

inductive KdfAlgorithm where
  | sha1
  | sha256
  | sha512
  deriving DecidableEq, Repr

def KdfAlgorithm.ordinal : KdfAlgorithm → Int32
  | sha1 => 0
  | sha256 => 1
  | sha512 => 2

-- ---------------------------------------------------------------------------
-- Shared checks
-- ---------------------------------------------------------------------------

/-- `Int.checkLegacyPageSize`. -/
def checkLegacyPageSize (value : Int32) : Except Throwable Unit :=
  if value = 0 then .ok ()
  else do
    require (512 ≤ value ∧ value ≤ 65536) "legacyPageSize must be 0, or within 512 and 65536"
    require (65536 % value = 0)
      "legacyPageSize must be a power of 2 (e.g. 512, 1024, 2048, 4096, 8192, ..., 65536)"

/-- `Int.checkKdfIter`. -/
def checkKdfIter (value : Int32) : Except Throwable Unit :=
  require (0 < value) "kdfIter must be greater than 0"

/-- What `checkLegacyPageSize` lets through: 0, or a power of two from 512 to 65536. -/
def PageSize (value : Int32) : Prop :=
  value = 0 ∨ ∃ k, 9 ≤ k ∧ k ≤ 16 ∧ value.toInt = 2 ^ k

-- ---------------------------------------------------------------------------
-- MCChaCha20Config
-- ---------------------------------------------------------------------------

structure MCChaCha20Config where
  legacy : Int32
  legacyPageSize : Int32
  kdfIter : Int32
  deriving DecidableEq, Repr

namespace MCChaCha20Config

structure Builder where
  legacy : Int32 := 0
  legacyPageSize : Int32 := 4096
  kdfIter : Int32 := 64007

inductive Call where
  | legacy (value : Int32)
  | legacyPageSize (value : Int32)
  | kdfIter (value : Int32)
  | default
  | sqleet

namespace Builder

def new : Option MCChaCha20Config → Builder
  | none => {}
  | some other =>
    { legacy := other.legacy, legacyPageSize := other.legacyPageSize, kdfIter := other.kdfIter }

def setLegacy (b : Builder) (value : Int32) : Except Throwable Builder := do
  require (0 ≤ value ∧ value ≤ 1) "must be with 0 (default) and 1 (sqleet)"
  return { b with legacy := value }

def setLegacyPageSize (b : Builder) (value : Int32) : Except Throwable Builder := do
  checkLegacyPageSize value
  return { b with legacyPageSize := value }

def setKdfIter (b : Builder) (value : Int32) : Except Throwable Builder := do
  checkKdfIter value
  return { b with kdfIter := value }

def default (_ : Builder) : Builder := { legacy := 0, legacyPageSize := 4096, kdfIter := 64007 }

def sqleet (_ : Builder) : Builder := { legacy := 1, legacyPageSize := 4096, kdfIter := 12345 }

def call (b : Builder) : Call → Except Throwable Builder
  | .legacy value => b.setLegacy value
  | .legacyPageSize value => b.setLegacyPageSize value
  | .kdfIter value => b.setKdfIter value
  | .default => .ok b.default
  | .sqleet => .ok b.sqleet

def build (b : Builder) : MCChaCha20Config :=
  { legacy := b.legacy, legacyPageSize := b.legacyPageSize, kdfIter := b.kdfIter }

end Builder

/-- `MCChaCha20Config.Default`. -/
def Default : MCChaCha20Config := (Builder.new none).default.build

/-- `MCChaCha20Config.SQLeet`. -/
def SQLeet : MCChaCha20Config := (Builder.new none).sqleet.build

/-- The functions of `MCChaCha20Config.Options`. -/
inductive Start where
  | default
  | sqleet
  deriving DecidableEq

def Start.config : Start → MCChaCha20Config
  | default => Default
  | sqleet => SQLeet

def dsl : CipherDsl where
  Config := MCChaCha20Config
  Builder := Builder
  Call := Call
  Start := Start
  new := Builder.new
  call := Builder.call
  build := Builder.build
  start := Start.config

end MCChaCha20Config

-- ---------------------------------------------------------------------------
-- MCRC4Config
-- ---------------------------------------------------------------------------

structure MCRC4Config where
  legacy : Int32
  legacyPageSize : Int32
  deriving DecidableEq, Repr

namespace MCRC4Config

/-- The builder's `legacy` is a constant 1. -/
structure Builder where
  legacyPageSize : Int32 := 0

inductive Call where
  | legacyPageSize (value : Int32)
  | default

namespace Builder

def legacy (_ : Builder) : Int32 := 1

def new : Option MCRC4Config → Builder
  | none => {}
  | some other => { legacyPageSize := other.legacyPageSize }

def setLegacyPageSize (b : Builder) (value : Int32) : Except Throwable Builder := do
  checkLegacyPageSize value
  return { b with legacyPageSize := value }

def default (_ : Builder) : Builder := { legacyPageSize := 0 }

def call (b : Builder) : Call → Except Throwable Builder
  | .legacyPageSize value => b.setLegacyPageSize value
  | .default => .ok b.default

def build (b : Builder) : MCRC4Config :=
  { legacy := b.legacy, legacyPageSize := b.legacyPageSize }

end Builder

/-- `MCRC4Config.Default`. -/
def Default : MCRC4Config := (Builder.new none).default.build

def dsl : CipherDsl where
  Config := MCRC4Config
  Builder := Builder
  Call := Call
  Start := Unit
  new := Builder.new
  call := Builder.call
  build := Builder.build
  start := fun _ => Default

end MCRC4Config

-- ---------------------------------------------------------------------------
-- MCWxAES128Config
-- ---------------------------------------------------------------------------

structure MCWxAES128Config where
  legacy : Int32
  legacyPageSize : Int32
  deriving DecidableEq, Repr

namespace MCWxAES128Config

structure Builder where
  legacy : Int32 := 0
  legacyPageSize : Int32 := 0

inductive Call where
  | legacy (value : Int32)
  | legacyPageSize (value : Int32)
  | default

namespace Builder

def new : Option MCWxAES128Config → Builder
  | none => {}
  | some other => { legacy := other.legacy, legacyPageSize := other.legacyPageSize }

def setLegacy (b : Builder) (value : Int32) : Except Throwable Builder := do
  require (0 ≤ value ∧ value ≤ 1) "must be 0 (false) or 1 (true)"
  return { b with legacy := value }

def setLegacyPageSize (b : Builder) (value : Int32) : Except Throwable Builder := do
  checkLegacyPageSize value
  return { b with legacyPageSize := value }

def default (_ : Builder) : Builder := { legacy := 0, legacyPageSize := 0 }

def call (b : Builder) : Call → Except Throwable Builder
  | .legacy value => b.setLegacy value
  | .legacyPageSize value => b.setLegacyPageSize value
  | .default => .ok b.default

def build (b : Builder) : MCWxAES128Config :=
  { legacy := b.legacy, legacyPageSize := b.legacyPageSize }

end Builder

/-- `MCWxAES128Config.Default`. -/
def Default : MCWxAES128Config := (Builder.new none).default.build

def dsl : CipherDsl where
  Config := MCWxAES128Config
  Builder := Builder
  Call := Call
  Start := Unit
  new := Builder.new
  call := Builder.call
  build := Builder.build
  start := fun _ => Default

end MCWxAES128Config

-- ---------------------------------------------------------------------------
-- MCWxAES256Config
-- ---------------------------------------------------------------------------

structure MCWxAES256Config where
  legacy : Int32
  legacyPageSize : Int32
  kdfIter : Int32
  deriving DecidableEq, Repr

namespace MCWxAES256Config

structure Builder where
  legacy : Int32 := 0
  legacyPageSize : Int32 := 0
  kdfIter : Int32 := 4001

inductive Call where
  | legacy (value : Int32)
  | legacyPageSize (value : Int32)
  | kdfIter (value : Int32)
  | default

namespace Builder

def new : Option MCWxAES256Config → Builder
  | none => {}
  | some other =>
    { legacy := other.legacy, legacyPageSize := other.legacyPageSize, kdfIter := other.kdfIter }

def setLegacy (b : Builder) (value : Int32) : Except Throwable Builder := do
  require (0 ≤ value ∧ value ≤ 1) "must be 0 (false) or 1 (true)"
  return { b with legacy := value }

def setLegacyPageSize (b : Builder) (value : Int32) : Except Throwable Builder := do
  checkLegacyPageSize value
  return { b with legacyPageSize := value }

def setKdfIter (b : Builder) (value : Int32) : Except Throwable Builder := do
  checkKdfIter value
  return { b with kdfIter := value }

def default (_ : Builder) : Builder := { legacy := 0, legacyPageSize := 0, kdfIter := 4001 }

def call (b : Builder) : Call → Except Throwable Builder
  | .legacy value => b.setLegacy value
  | .legacyPageSize value => b.setLegacyPageSize value
  | .kdfIter value => b.setKdfIter value
  | .default => .ok b.default

def build (b : Builder) : MCWxAES256Config :=
  { legacy := b.legacy, legacyPageSize := b.legacyPageSize, kdfIter := b.kdfIter }

end Builder

/-- `MCWxAES256Config.Default`. -/
def Default : MCWxAES256Config := (Builder.new none).default.build

def dsl : CipherDsl where
  Config := MCWxAES256Config
  Builder := Builder
  Call := Call
  Start := Unit
  new := Builder.new
  call := Builder.call
  build := Builder.build
  start := fun _ => Default

end MCWxAES256Config

-- ---------------------------------------------------------------------------
-- MCAscon128Config
-- ---------------------------------------------------------------------------

structure MCAscon128Config where
  legacy : Int32
  legacyPageSize : Int32
  kdfIter : Int32
  deriving DecidableEq, Repr

namespace MCAscon128Config

/-- The builder's `legacy` and `legacyPageSize` are constants. -/
structure Builder where
  kdfIter : Int32 := 64007

inductive Call where
  | kdfIter (value : Int32)
  | default

namespace Builder

def legacy (_ : Builder) : Int32 := 0

def legacyPageSize (_ : Builder) : Int32 := 4096

def new : Option MCAscon128Config → Builder
  | none => {}
  | some other => { kdfIter := other.kdfIter }

def setKdfIter (b : Builder) (value : Int32) : Except Throwable Builder := do
  checkKdfIter value
  return { b with kdfIter := value }

def default (_ : Builder) : Builder := { kdfIter := 64007 }

def call (b : Builder) : Call → Except Throwable Builder
  | .kdfIter value => b.setKdfIter value
  | .default => .ok b.default

def build (b : Builder) : MCAscon128Config :=
  { legacy := b.legacy, legacyPageSize := b.legacyPageSize, kdfIter := b.kdfIter }

end Builder

/-- `MCAscon128Config.Default`. -/
def Default : MCAscon128Config := (Builder.new none).default.build

def dsl : CipherDsl where
  Config := MCAscon128Config
  Builder := Builder
  Call := Call
  Start := Unit
  new := Builder.new
  call := Builder.call
  build := Builder.build
  start := fun _ => Default

end MCAscon128Config

-- ---------------------------------------------------------------------------
-- MCSqlCipherConfig
-- ---------------------------------------------------------------------------

structure MCSqlCipherConfig where
  legacy : Int32
  legacyPageSize : Int32
  kdfIter : Int32
  fastKdfIter : Int32
  hmacUse : Bool
  hmacPngo : Option HmacPngo
  hmacSaltMask : Option Int8
  kdfAlgorithm : KdfAlgorithm
  hmacAlgorithm : HmacAlgorithm
  plaintextHeaderSize : Option Int32
  deriving DecidableEq, Repr

namespace MCSqlCipherConfig

structure Builder where
  legacy : Int32 := 0
  legacyPageSize : Int32 := 4096
  kdfIter : Int32 := 256000
  fastKdfIter : Int32 := 2
  hmacUse : Bool := true
  hmacPngo : Option HmacPngo := some .littleEndian
  hmacSaltMask : Option Int8 := some 0x3a
  kdfAlgorithm : KdfAlgorithm := .sha512
  hmacAlgorithm : HmacAlgorithm := .sha512
  plaintextHeaderSize : Option Int32 := some 0

inductive Call where
  | legacy (value : Int32)
  | legacyPageSize (value : Int32)
  | kdfIter (value : Int32)
  | fastKdfIter (value : Int32)
  | hmacUse (value : Bool)
  | hmacPngo (value : Option HmacPngo)
  | hmacSaltMask (value : Option Int8)
  | kdfAlgorithm (value : KdfAlgorithm)
  | hmacAlgorithm (value : HmacAlgorithm)
  | plaintextHeaderSize (value : Option Int32)
  | default
  | v1
  | v2
  | v3
  | v4

namespace Builder

def new : Option MCSqlCipherConfig → Builder
  | none => {}
  | some other =>
    { legacy := other.legacy
      legacyPageSize := other.legacyPageSize
      kdfIter := other.kdfIter
      fastKdfIter := other.fastKdfIter
      hmacUse := other.hmacUse
      hmacPngo := other.hmacPngo
      hmacSaltMask := other.hmacSaltMask
      kdfAlgorithm := other.kdfAlgorithm
      hmacAlgorithm := other.hmacAlgorithm
      plaintextHeaderSize := other.plaintextHeaderSize }

def setLegacy (b : Builder) (value : Int32) : Except Throwable Builder := do
  require (0 ≤ value ∧ value ≤ 4) "must be within 0 and 4"
  return { b with legacy := value }

def setLegacyPageSize (b : Builder) (value : Int32) : Except Throwable Builder := do
  checkLegacyPageSize value
  return { b with legacyPageSize := value }

def setKdfIter (b : Builder) (value : Int32) : Except Throwable Builder := do
  checkKdfIter value
  return { b with kdfIter := value }

def setFastKdfIter (b : Builder) (value : Int32) : Except Throwable Builder := do
  checkKdfIter value
  return { b with fastKdfIter := value }

def setHmacUse (b : Builder) (value : Bool) : Builder := { b with hmacUse := value }

def setHmacPngo (b : Builder) (value : Option HmacPngo) : Builder := { b with hmacPngo := value }

def setHmacSaltMask (b : Builder) (value : Option Int8) : Except Throwable Builder := do
  require (value.all (0 ≤ ·)) "must be greater than or equal to 0 (or null)"
  return { b with hmacSaltMask := value }

def setKdfAlgorithm (b : Builder) (value : KdfAlgorithm) : Builder :=
  { b with kdfAlgorithm := value }

def setHmacAlgorithm (b : Builder) (value : HmacAlgorithm) : Builder :=
  { b with hmacAlgorithm := value }

/-- The check of `plaintextHeaderSize`, made when the argument is not null. -/
def checkPlaintextHeaderSize : Option Int32 → Except Throwable Unit
  | none => .ok ()
  | some value => do
    require (0 ≤ value ∧ value ≤ 100) "must be between 0 and 100 (or null)"
    require (value % 16 = 0) "must be multiples of 16 (or null)"

def setPlaintextHeaderSize (b : Builder) (value : Option Int32) : Except Throwable Builder := do
  checkPlaintextHeaderSize value
  return { b with plaintextHeaderSize := value }

def default (_ : Builder) : Builder :=
  { legacy := 0, legacyPageSize := 4096, kdfIter := 256000, fastKdfIter := 2, hmacUse := true,
    hmacPngo := some .littleEndian, hmacSaltMask := some 0x3a, kdfAlgorithm := .sha512,
    hmacAlgorithm := .sha512, plaintextHeaderSize := some 0 }

def v1 (_ : Builder) : Builder :=
  { legacy := 1, legacyPageSize := 1024, kdfIter := 4000, fastKdfIter := 2, hmacUse := false,
    hmacPngo := none, hmacSaltMask := none, kdfAlgorithm := .sha1,
    hmacAlgorithm := .sha1, plaintextHeaderSize := none }

def v2 (_ : Builder) : Builder :=
  { legacy := 2, legacyPageSize := 1024, kdfIter := 4000, fastKdfIter := 2, hmacUse := true,
    hmacPngo := some .littleEndian, hmacSaltMask := some 0x3a, kdfAlgorithm := .sha1,
    hmacAlgorithm := .sha1, plaintextHeaderSize := none }

def v3 (_ : Builder) : Builder :=
  { legacy := 3, legacyPageSize := 1024, kdfIter := 64000, fastKdfIter := 2, hmacUse := true,
    hmacPngo := some .littleEndian, hmacSaltMask := some 0x3a, kdfAlgorithm := .sha1,
    hmacAlgorithm := .sha1, plaintextHeaderSize := none }

def v4 (_ : Builder) : Builder :=
  { legacy := 4, legacyPageSize := 4096, kdfIter := 256000, fastKdfIter := 2, hmacUse := true,
    hmacPngo := some .littleEndian, hmacSaltMask := some 0x3a, kdfAlgorithm := .sha512,
    hmacAlgorithm := .sha512, plaintextHeaderSize := some 0 }

def call (b : Builder) : Call → Except Throwable Builder
  | .legacy value => b.setLegacy value
  | .legacyPageSize value => b.setLegacyPageSize value
  | .kdfIter value => b.setKdfIter value
  | .fastKdfIter value => b.setFastKdfIter value
  | .hmacUse value => .ok (b.setHmacUse value)
  | .hmacPngo value => .ok (b.setHmacPngo value)
  | .hmacSaltMask value => b.setHmacSaltMask value
  | .kdfAlgorithm value => .ok (b.setKdfAlgorithm value)
  | .hmacAlgorithm value => .ok (b.setHmacAlgorithm value)
  | .plaintextHeaderSize value => b.setPlaintextHeaderSize value
  | .default => .ok b.default
  | .v1 => .ok b.v1
  | .v2 => .ok b.v2
  | .v3 => .ok b.v3
  | .v4 => .ok b.v4

/-- The nullable fields are repaired for the legacy level. -/
def build (b : Builder) : MCSqlCipherConfig where
  legacy := b.legacy
  legacyPageSize := b.legacyPageSize
  kdfIter := b.kdfIter
  fastKdfIter := b.fastKdfIter
  hmacUse := b.hmacUse
  hmacPngo := if b.legacy = 1 then none else some (b.hmacPngo.getD .littleEndian)
  hmacSaltMask := if b.legacy = 1 then none else some (b.hmacSaltMask.getD 0x3a)
  kdfAlgorithm := b.kdfAlgorithm
  hmacAlgorithm := b.hmacAlgorithm
  plaintextHeaderSize :=
    if 1 ≤ b.legacy ∧ b.legacy ≤ 3 then none else some (b.plaintextHeaderSize.getD 0)

end Builder

def Default : MCSqlCipherConfig := (Builder.new none).default.build
def v1 : MCSqlCipherConfig := (Builder.new none).v1.build
def v2 : MCSqlCipherConfig := (Builder.new none).v2.build
def v3 : MCSqlCipherConfig := (Builder.new none).v3.build
def v4 : MCSqlCipherConfig := (Builder.new none).v4.build

/-- The functions of `MCSqlCipherConfig.Options`. -/
inductive Start where
  | default
  | v1
  | v2
  | v3
  | v4
  deriving DecidableEq

def Start.config : Start → MCSqlCipherConfig
  | default => Default
  | v1 => MCSqlCipherConfig.v1
  | v2 => MCSqlCipherConfig.v2
  | v3 => MCSqlCipherConfig.v3
  | v4 => MCSqlCipherConfig.v4

def dsl : CipherDsl where
  Config := MCSqlCipherConfig
  Builder := Builder
  Call := Call
  Start := Start
  new := Builder.new
  call := Builder.call
  build := Builder.build
  start := Start.config

end MCSqlCipherConfig

-- ---------------------------------------------------------------------------
-- MCCipherConfig
-- ---------------------------------------------------------------------------

/-- The sealed class of cipher configurations. -/
inductive MCCipherConfig where
  | chaCha20 (config : MCChaCha20Config)
  | rc4 (config : MCRC4Config)
  | sqlCipher (config : MCSqlCipherConfig)
  | wxAES128 (config : MCWxAES128Config)
  | wxAES256 (config : MCWxAES256Config)
  | ascon128 (config : MCAscon128Config)
  deriving DecidableEq, Repr

namespace MCCipherConfig

def cipher : MCCipherConfig → Cipher
  | chaCha20 _ => .chacha20
  | rc4 _ => .rc4
  | sqlCipher _ => .sqlcipher
  | wxAES128 _ => .aes128cbc
  | wxAES256 _ => .aes256cbc
  | ascon128 _ => .ascon128

def legacy : MCCipherConfig → Int32
  | chaCha20 c => c.legacy
  | rc4 c => c.legacy
  | sqlCipher c => c.legacy
  | wxAES128 c => c.legacy
  | wxAES256 c => c.legacy
  | ascon128 c => c.legacy

/-- The configuration came out of its class's builder. -/
def Built : MCCipherConfig → Prop
  | chaCha20 c => MCChaCha20Config.dsl.Built c
  | rc4 c => MCRC4Config.dsl.Built c
  | sqlCipher c => MCSqlCipherConfig.dsl.Built c
  | wxAES128 c => MCWxAES128Config.dsl.Built c
  | wxAES256 c => MCWxAES256Config.dsl.Built c
  | ascon128 c => MCAscon128Config.dsl.Built c

end MCCipherConfig

end SqliteMc
