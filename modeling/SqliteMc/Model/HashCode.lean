import SqliteMc.Lib.HashCode
import SqliteMc.Model.EncryptionConfig
import SqliteMc.Model.PragmaConfig

/-!
# Equality and hash codes

`equals` and `hashCode` of the configuration classes, as each class writes them out. The
fields are compared one by one, sets and maps regardless of the order of their entries; the
hash codes are folded over the fields, and over the entries in the order of the iteration.

The entries of enumerations have identity hash codes: any numbers, the same ones as long as
the program runs (`EnumHashCodes`).
-/

namespace SqliteMc

/-- The hash codes of the enumerations' entries. -/
structure EnumHashCodes where
  hmacPngo : HmacPngo → Int32
  kdfAlgorithm : KdfAlgorithm → Int32
  hmacAlgorithm : HmacAlgorithm → Int32

-- ---------------------------------------------------------------------------
-- Encryption
-- ---------------------------------------------------------------------------

namespace MCCipherConfig

/-- `MCCipherConfig.equals`: the same class and the same fields. -/
def equals : MCCipherConfig → MCCipherConfig → Bool
  | chaCha20 c, chaCha20 other =>
    other.legacy == c.legacy && other.legacyPageSize == c.legacyPageSize &&
      other.kdfIter == c.kdfIter
  | rc4 c, rc4 other => other.legacy == c.legacy && other.legacyPageSize == c.legacyPageSize
  | sqlCipher c, sqlCipher other =>
    other.legacy == c.legacy && other.legacyPageSize == c.legacyPageSize &&
      other.kdfIter == c.kdfIter && other.fastKdfIter == c.fastKdfIter &&
      other.hmacUse == c.hmacUse && other.hmacPngo == c.hmacPngo &&
      other.hmacSaltMask == c.hmacSaltMask && other.kdfAlgorithm == c.kdfAlgorithm &&
      other.hmacAlgorithm == c.hmacAlgorithm && other.plaintextHeaderSize == c.plaintextHeaderSize
  | wxAES128 c, wxAES128 other =>
    other.legacy == c.legacy && other.legacyPageSize == c.legacyPageSize
  | wxAES256 c, wxAES256 other =>
    other.legacy == c.legacy && other.legacyPageSize == c.legacyPageSize &&
      other.kdfIter == c.kdfIter
  | ascon128 c, ascon128 other =>
    other.legacy == c.legacy && other.legacyPageSize == c.legacyPageSize &&
      other.kdfIter == c.kdfIter
  | _, _ => false

/-- The hash codes of the fields; the hash code of an `Int` or a `Byte` is its value. -/
def fieldHashCodes (E : EnumHashCodes) : MCCipherConfig → List Int32
  | chaCha20 c => [c.legacy, c.legacyPageSize, c.kdfIter]
  | rc4 c => [c.legacy, c.legacyPageSize]
  | sqlCipher c =>
    [c.legacy, c.legacyPageSize, c.kdfIter, c.fastKdfIter, HashCode.ofBool c.hmacUse,
      HashCode.ofOption E.hmacPngo c.hmacPngo, HashCode.ofOption Int8.toInt32 c.hmacSaltMask,
      E.kdfAlgorithm c.kdfAlgorithm, E.hmacAlgorithm c.hmacAlgorithm,
      HashCode.ofOption id c.plaintextHeaderSize]
  | wxAES128 c => [c.legacy, c.legacyPageSize]
  | wxAES256 c => [c.legacy, c.legacyPageSize, c.kdfIter]
  | ascon128 c => [c.legacy, c.legacyPageSize, c.kdfIter]

def hashCode (E : EnumHashCodes) (c : MCCipherConfig) : Int32 :=
  HashCode.foldFrom 17 (c.fieldHashCodes E)

end MCCipherConfig

namespace EncryptionConfig

def equals (c other : EncryptionConfig) : Bool :=
  other.hmacCheck == c.hmacCheck && other.mcLegacyWAL == c.mcLegacyWAL &&
    other.cipherConfig.equals c.cipherConfig

def hashCode (E : EnumHashCodes) (c : EncryptionConfig) : Int32 :=
  HashCode.foldFrom 17
    [HashCode.ofBool c.hmacCheck, HashCode.ofBool c.mcLegacyWAL, c.cipherConfig.hashCode E]

end EncryptionConfig

namespace EncryptionMigration

/-- The notes are not compared. -/
def equals (m other : EncryptionMigration) : Bool :=
  other.encryptionConfig.equals m.encryptionConfig

def hashCode (E : EnumHashCodes) (m : EncryptionMigration) : Int32 :=
  17 * 31 + m.encryptionConfig.hashCode E

end EncryptionMigration

namespace EncryptionMigrationConfig

/-- Equality of the sets of migrations. -/
def equals (c other : EncryptionMigrationConfig) : Bool := other.migrations.equals c.migrations

/-- The hash codes of the migrations, in the order of the iteration. -/
def migrationHashCodes (E : EnumHashCodes) (c : EncryptionMigrationConfig) : List Int32 :=
  c.migrations.entries.map fun e => e.1.hashCode E

def hashCode (E : EnumHashCodes) (c : EncryptionMigrationConfig) : Int32 :=
  HashCode.foldFrom 17 (c.migrationHashCodes E)

end EncryptionMigrationConfig

-- ---------------------------------------------------------------------------
-- FilesystemConfig
-- ---------------------------------------------------------------------------

/-- `DatabasesDir.hashCode`, of the directory's path. -/
def DatabasesDir.hashCode (path : Option Text) : Int32 :=
  17 * 31 + HashCode.ofOption HashCode.ofText path

/-- A `FilesystemConfig` with the path of its `databasesDir`. -/
structure FilesystemConfig.InDirectory extends FilesystemConfig where
  databasesDir : Option Text

namespace FilesystemConfig.InDirectory

/-- `==` of two migration configurations that may be null. -/
def migrationsEqual : Option EncryptionMigrationConfig → Option EncryptionMigrationConfig → Bool
  | none, none => true
  | some c, some other => c.equals other
  | _, _ => false

def equals (c other : InDirectory) : Bool :=
  other.databasesDir == c.databasesDir && other.encryptionConfig.equals c.encryptionConfig &&
    migrationsEqual other.encryptionMigrationConfig c.encryptionMigrationConfig

def hashCode (E : EnumHashCodes) (c : InDirectory) : Int32 :=
  HashCode.foldFrom 17
    [DatabasesDir.hashCode c.databasesDir, c.encryptionConfig.hashCode E,
      HashCode.ofOption (EncryptionMigrationConfig.hashCode E) c.encryptionMigrationConfig]

end FilesystemConfig.InDirectory

-- ---------------------------------------------------------------------------
-- PragmaConfig
-- ---------------------------------------------------------------------------

namespace PragmaConfig

/-- Equality of the two sets of entries. -/
def equals (c other : PragmaConfig) : Bool :=
  other.ephemeral.equals c.ephemeral && other.filesystem.equals c.filesystem

/-- The hash codes of the keys and the values, in the order of the iteration. -/
def entryHashCodes (pragmas : Pragmas) : List Int32 :=
  pragmas.entries.flatMap fun e => [HashCode.ofText e.1, HashCode.ofText e.2]

def hashCode (c : PragmaConfig) : Int32 :=
  HashCode.foldFrom (HashCode.foldFrom 17 (entryHashCodes c.ephemeral))
    (entryHashCodes c.filesystem)

end PragmaConfig

end SqliteMc
