import SqliteMc.Model.HashCode

/-!
# Configurations to share

The `new` functions of the five configuration classes that are not a cipher's. Each makes a
builder that inherits from a configuration, runs a block on it and builds. `PlatformConfig`
has a class on each platform.
-/

namespace SqliteMc

-- ---------------------------------------------------------------------------
-- Encryption
-- ---------------------------------------------------------------------------

namespace EncryptionConfig

/-- `EncryptionConfig.new(other, block)`, and `other.new(block)`. -/
def new (other : Option EncryptionConfig) (block : Block Builder.Call) :
    Except Throwable EncryptionConfig := do
  match ← newOrNull other block with
  | some config => return config
  | none => .error (.illegalState (Text.lit "No cipher was configured") none)

end EncryptionConfig

namespace EncryptionMigrationConfig

/-- `EncryptionMigrationConfig.newOrNull(other, block)`. -/
def newOrNull (other : Option EncryptionMigrationConfig) (block : Block Builder.Call) :
    Except Throwable (Option EncryptionMigrationConfig) :=
  match block.escapes with
  | none => .ok (runCalls Builder.call (Builder.new other) block.calls).build
  | some t => .error t

/-- `EncryptionMigrationConfig.new(other, block)`, and `other.new(block)`. -/
def new (other : Option EncryptionMigrationConfig) (block : Block Builder.Call) :
    Except Throwable EncryptionMigrationConfig := do
  match ← newOrNull other block with
  | some config => return config
  | none => .error (.illegalState (Text.lit "No migrations were configured") none)

end EncryptionMigrationConfig

-- ---------------------------------------------------------------------------
-- File systems
-- ---------------------------------------------------------------------------

/-- `other.new(block)`. The builder's `databasesDir` is a `val`. -/
def FilesystemConfig.InDirectory.new (other : InDirectory) (block : Block Builder.Call) :
    Except Throwable InDirectory :=
  match block.escapes with
  | none =>
    .ok { (runCalls Builder.call (Builder.new other.toFilesystemConfig) block.calls).build with
      databasesDir := other.databasesDir }
  | some t => .error t

-- ---------------------------------------------------------------------------
-- Pragmas
-- ---------------------------------------------------------------------------

/-- `PragmaConfig.new(other, block)`, and `other.new(block)`. -/
def PragmaConfig.new (other : Option PragmaConfig) (block : Block Builder.Call) :
    Except Throwable PragmaConfig :=
  match block.escapes with
  | none => .ok (block.calls.foldl Builder.call (Builder.new other)).build
  | some t => .error t

-- ---------------------------------------------------------------------------
-- Platforms
-- ---------------------------------------------------------------------------

namespace Native

structure PlatformConfig where
  maxReaderConnections : Int32
  deriving DecidableEq, Repr

namespace PlatformConfig

structure Builder where
  maxReaderConnections : Int32 := 1

/-- The property of a builder is written directly. -/
inductive Builder.Call where
  | maxReaderConnections (value : Int32)

namespace Builder

def new : Option PlatformConfig → Builder
  | none => {}
  | some other => { maxReaderConnections := other.maxReaderConnections }

def call (_ : Builder) : Call → Builder
  | .maxReaderConnections value => { maxReaderConnections := value }

def build (b : Builder) : PlatformConfig where
  maxReaderConnections := if b.maxReaderConnections < 1 then 1 else b.maxReaderConnections

end Builder

/-- `PlatformConfig.new(other, block)`, and `other.new(block)`. -/
def new (other : Option PlatformConfig) (block : Block Builder.Call) :
    Except Throwable PlatformConfig :=
  match block.escapes with
  | none => .ok (block.calls.foldl Builder.call (Builder.new other)).build
  | some t => .error t

end PlatformConfig

end Native

namespace JvmAndroid

structure PlatformConfig where
  migrateEmptySchema : Bool
  deriving DecidableEq, Repr

namespace PlatformConfig

structure Builder where
  migrateEmptySchema : Bool := false

inductive Builder.Call where
  | migrateEmptySchema (value : Bool)

namespace Builder

def new : Option PlatformConfig → Builder
  | none => {}
  | some other => { migrateEmptySchema := other.migrateEmptySchema }

def call (_ : Builder) : Call → Builder
  | .migrateEmptySchema value => { migrateEmptySchema := value }

def build (b : Builder) : PlatformConfig where
  migrateEmptySchema := b.migrateEmptySchema

end Builder

/-- `PlatformConfig.new(other, block)`, and `other.new(block)`. -/
def new (other : Option PlatformConfig) (block : Block Builder.Call) :
    Except Throwable PlatformConfig :=
  match block.escapes with
  | none => .ok (block.calls.foldl Builder.call (Builder.new other)).build
  | some t => .error t

end PlatformConfig

end JvmAndroid

end SqliteMc
