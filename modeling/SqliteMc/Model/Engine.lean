import SqliteMc.Model.Pragma

/-!
# SQLite3MultipleCiphers

What the statements of the driver do to a connection of the vendored SQLite3MC: the
parameter tables that each connection starts with and the codec that `PRAGMA key` and
`PRAGMA rekey` allocate from them.

* `PRAGMA main.p = n` sets the default and the value of a parameter of the selected cipher,
  `PRAGMA temp.p = n` its value only; a value out of bounds is refused and logged.
* `legacy` from 1 to 4 of the cipher `sqlcipher` first sets five other parameters to the
  values of that SQLCipher version.
* Allocating a codec reads values and resets what it has read to the defaults.
-/

namespace SqliteMc

/-- The parameters in the cipher tables. -/
inductive CipherParam where
  | legacy
  | legacyPageSize
  | kdfIter
  | fastKdfIter
  | hmacUse
  | hmacPgno
  | hmacSaltMask
  | kdfAlgorithm
  | hmacAlgorithm
  | hmacAlgorithmCompat
  | plaintextHeaderSize
  deriving DecidableEq, Repr

/-- The cipher parameter that a pragma names. -/
def MCPragma.param : MCPragma → Option CipherParam
  | .legacy => some .legacy
  | .legacyPageSize => some .legacyPageSize
  | .kdfIter => some .kdfIter
  | .fastKdfIter => some .fastKdfIter
  | .hmacUse => some .hmacUse
  | .hmacPngo => some .hmacPgno
  | .hmacSaltMask => some .hmacSaltMask
  | .kdfAlgorithm => some .kdfAlgorithm
  | .hmacAlgorithm => some .hmacAlgorithm
  | .plainTextHeaderSize => some .plaintextHeaderSize
  | _ => none

namespace Engine

/-- `m_default` and `m_value` of an entry. -/
structure Setting where
  default : Int
  value : Int
  deriving DecidableEq, Repr

/-- `m_minValue` and `m_maxValue`; `none` if the cipher's table has no such entry. -/
def bounds : Cipher → CipherParam → Option (Int × Int)
  | .aes128cbc, .legacy => some (0, 1)
  | .aes128cbc, .legacyPageSize => some (0, 65536)
  | .aes256cbc, .legacy => some (0, 1)
  | .aes256cbc, .legacyPageSize => some (0, 65536)
  | .aes256cbc, .kdfIter => some (1, 0x7fffffff)
  | .chacha20, .legacy => some (0, 1)
  | .chacha20, .legacyPageSize => some (0, 65536)
  | .chacha20, .kdfIter => some (1, 0x7fffffff)
  | .chacha20, .plaintextHeaderSize => some (0, 100)
  | .sqlcipher, .legacy => some (0, 4)
  | .sqlcipher, .legacyPageSize => some (0, 65536)
  | .sqlcipher, .kdfIter => some (1, 0x7fffffff)
  | .sqlcipher, .fastKdfIter => some (1, 0x7fffffff)
  | .sqlcipher, .hmacUse => some (0, 1)
  | .sqlcipher, .hmacPgno => some (0, 2)
  | .sqlcipher, .hmacSaltMask => some (0, 255)
  | .sqlcipher, .kdfAlgorithm => some (0, 2)
  | .sqlcipher, .hmacAlgorithm => some (0, 2)
  | .sqlcipher, .hmacAlgorithmCompat => some (0, 1)
  | .sqlcipher, .plaintextHeaderSize => some (0, 100)
  | .rc4, .legacy => some (1, 1)
  | .rc4, .legacyPageSize => some (0, 65536)
  | .ascon128, .kdfIter => some (1, 0x7fffffff)
  | .ascon128, .plaintextHeaderSize => some (0, 100)
  | _, _ => none

/-- The built-in defaults. -/
def builtin : Cipher → CipherParam → Int
  | .aes256cbc, .kdfIter => 4001
  | .chacha20, .legacyPageSize => 4096
  | .chacha20, .kdfIter => 64007
  | .sqlcipher, .legacyPageSize => 4096
  | .sqlcipher, .kdfIter => 256000
  | .sqlcipher, .fastKdfIter => 2
  | .sqlcipher, .hmacUse => 1
  | .sqlcipher, .hmacPgno => 1
  | .sqlcipher, .hmacSaltMask => 0x3a
  | .sqlcipher, .kdfAlgorithm => 2
  | .sqlcipher, .hmacAlgorithm => 2
  | .sqlcipher, .hmacAlgorithmCompat => 1
  | .rc4, .legacy => 1
  | .ascon128, .kdfIter => 64007
  | _, _ => 0

/-- The parameter tables of a connection. -/
structure Parameters where
  cipherDefault : Cipher
  cipher : Cipher
  hmacCheck : Setting
  mcLegacyWal : Setting
  table : Cipher → CipherParam → Setting

/-- The tables of a new connection. -/
def Parameters.new : Parameters where
  cipherDefault := .chacha20
  cipher := .chacha20
  hmacCheck := ⟨1, 1⟩
  mcLegacyWal := ⟨0, 0⟩
  table := fun c p => ⟨builtin c p, builtin c p⟩

-- ---------------------------------------------------------------------------
-- Setting parameters
-- ---------------------------------------------------------------------------

/-- `checkParameterValue`: a page size is a power of two, a SQLCipher header size a multiple
of the block size. -/
def checkParameterValue (p : CipherParam) (value : Int) (c : Cipher) : Bool :=
  match p with
  | .legacyPageSize =>
    decide (value ≤ 0) || (decide (512 ≤ value ∧ value ≤ 65536) &&
      ((value.toNat - 1) &&& value.toNat) == 0)
  | .plaintextHeaderSize => decide (value ≤ 0) || c != .sqlcipher || value % 16 == 0
  | _ => true

/-- The table takes the value: the entry exists and the value is within its bounds. -/
def takes (c : Cipher) (p : CipherParam) (value : Int) : Bool :=
  match bounds c p with
  | none => false
  | some (lo, hi) =>
    decide (0 ≤ value ∧ lo ≤ value ∧ value ≤ hi) && checkParameterValue p value c

/-- `main` sets the default as well. -/
def Setting.set (schema : Schema) (value : Int) (e : Setting) : Setting :=
  match schema with
  | .main => ⟨value, value⟩
  | .temp => { e with value := value }

namespace Parameters

/-- Write one entry, if it takes the value. -/
def write (t : Parameters) (c : Cipher) (schema : Schema) (p : CipherParam) (value : Int) :
    Parameters :=
  if takes c p value then
    { t with
      table := fun c' p' => if c' = c ∧ p' = p then (t.table c p).set schema value else t.table c' p' }
  else t

/-- The values of the four SQLCipher versions. -/
def versionParams : Int → CipherParam → Option Int
  | 1, .legacyPageSize => some 1024
  | 1, .kdfIter => some 4000
  | 1, .hmacUse => some 0
  | 1, .kdfAlgorithm => some 0
  | 1, .hmacAlgorithm => some 0
  | 2, .legacyPageSize => some 1024
  | 2, .kdfIter => some 4000
  | 2, .hmacUse => some 1
  | 2, .kdfAlgorithm => some 0
  | 2, .hmacAlgorithm => some 0
  | 3, .legacyPageSize => some 1024
  | 3, .kdfIter => some 64000
  | 3, .hmacUse => some 1
  | 3, .kdfAlgorithm => some 0
  | 3, .hmacAlgorithm => some 0
  | 4, .legacyPageSize => some 4096
  | 4, .kdfIter => some 256000
  | 4, .hmacUse => some 1
  | 4, .kdfAlgorithm => some 2
  | 4, .hmacAlgorithm => some 2
  | _, _ => none

/-- The parameters a SQLCipher version sets, in order. -/
def versionNames : List CipherParam :=
  [.legacyPageSize, .kdfIter, .hmacUse, .kdfAlgorithm, .hmacAlgorithm]

/-- Set a parameter to its value in a SQLCipher version. -/
def writeVersionParam (t : Parameters) (schema : Schema) (version : Int) (p : CipherParam) :
    Parameters :=
  match versionParams version p with
  | some value => t.write .sqlcipher schema p value
  | none => t

/-- `sqlite3mcConfigureSQLCipherVersion`. -/
def configureSQLCipherVersion (t : Parameters) (schema : Schema) (version : Int) : Parameters :=
  versionNames.foldl (fun t p => t.writeVersionParam schema version p) t

/-- `sqlite3mc_config_cipher`. -/
def configCipher (t : Parameters) (schema : Schema) (p : CipherParam) (value : Int) :
    Parameters :=
  -- the version sets five other parameters before its own entry is written
  let t' :=
    if t.cipher = .sqlcipher ∧ p = .legacy ∧ 0 < value ∧ value ≤ 4 then
      t.configureSQLCipherVersion schema value
    else t
  t'.write t.cipher schema p value

/-- `sqlite3GetBoolean` of an integer text. -/
def getBoolean (value : Int) (dflt : Int) : Int :=
  if value < 0 then dflt else if value % 256 = 0 then 0 else 1

/-- `PRAGMA schema.pragma = integer`. The default of `hmac_check` is never changed, and
`mc_legacy_wal` is always set without one. -/
def config (t : Parameters) (schema : Schema) (pragma : MCPragma) (integer : Int) : Parameters :=
  match pragma with
  | .hmacCheck => { t with hmacCheck := { t.hmacCheck with value := getBoolean integer 1 } }
  | .mcLegacyWal => { t with mcLegacyWal := { t.mcLegacyWal with value := getBoolean integer 0 } }
  | p =>
    match p.param with
    | some q => t.configCipher schema q integer
    | none => t

/-- `PRAGMA schema.cipher = name`. -/
def selectCipher (t : Parameters) (schema : Schema) (name : Text) : Parameters :=
  match Cipher.valueOfOrNull name with
  -- an unknown name selects nothing
  | none => t
  | some c =>
    match schema with
    | .main => { t with cipherDefault := c, cipher := c }
    | .temp => { t with cipher := c }

end Parameters

-- ---------------------------------------------------------------------------
-- Codecs
-- ---------------------------------------------------------------------------

/-- The cipher part of a codec: which cipher, and the parameters it was allocated with. -/
structure CodecCipher where
  cipher : Cipher
  param : CipherParam → Option Int

structure Codec where
  hmacCheck : Int
  walLegacy : Int
  cipher : CodecCipher

namespace Parameters

/-- Allocating a cipher reads the parameter. SQLCipher reads the header size from version 4
on only. -/
def reads (t : Parameters) (c : Cipher) (p : CipherParam) : Bool :=
  (bounds c p).isSome &&
    !(c == .sqlcipher && p == .plaintextHeaderSize && decide ((t.table c .legacy).value < 4))

/-- The parameter as the allocated cipher has it: ChaCha20 in legacy mode takes the
iterations of sqleet, and SQLCipher before version 4 no plain text header. -/
def inForce (t : Parameters) (c : Cipher) (p : CipherParam) : Option Int :=
  match bounds c p with
  | none => none
  | some _ =>
    if c = .chacha20 ∧ p = .kdfIter ∧ (t.table c .legacy).value ≠ 0 then some 12345
    else if c = .sqlcipher ∧ p = .plaintextHeaderSize ∧ (t.table c .legacy).value < 4 then some 0
    else some (t.table c p).value

/-- The codec that `PRAGMA key` or `PRAGMA rekey` sets up. -/
def codec (t : Parameters) : Codec where
  hmacCheck := t.hmacCheck.value
  walLegacy := t.mcLegacyWal.value
  cipher := { cipher := t.cipher, param := t.inForce t.cipher }

/-- The tables after a codec has been set up: what was read is reset to its default. -/
def allocated (t : Parameters) : Parameters where
  cipherDefault := t.cipherDefault
  cipher := t.cipherDefault
  hmacCheck := { t.hmacCheck with value := t.hmacCheck.default }
  mcLegacyWal := { t.mcLegacyWal with value := t.mcLegacyWal.default }
  table := fun c p =>
    if c = t.cipher ∧ t.reads c p then { t.table c p with value := (t.table c p).default }
    else t.table c p

end Parameters

/-- The key text of an empty passphrase. -/
def emptyKey : Text := Text.lit "''"

/-- The tables after a statement. An empty key sets up no codec. -/
def exec (t : Parameters) : Statement → Parameters
  | .selectSchema => t
  | .journalModeDelete => t
  | .cipher schema name => t.selectCipher schema name
  | .config schema pragma integer => t.config schema pragma integer.toInt
  | .key value => if value = emptyKey then t else t.allocated
  | .rekey value => if value = emptyKey then t else t.allocated

/-- The tables after a list of statements. -/
def run (t : Parameters) (sts : List Statement) : Parameters := sts.foldl exec t

@[simp] theorem run_nil (t : Parameters) : run t [] = t := rfl

@[simp] theorem run_cons (t : Parameters) (s : Statement) (sts : List Statement) :
    run t (s :: sts) = run (exec t s) sts := rfl

theorem run_append (t : Parameters) (a b : List Statement) : run t (a ++ b) = run (run t a) b :=
  List.foldl_append

-- ---------------------------------------------------------------------------
-- What a write does
-- ---------------------------------------------------------------------------

namespace Parameters

/-- Writing a parameter does not select a cipher. -/
@[simp] theorem write_cipher (t : Parameters) (c : Cipher) (schema : Schema) (p : CipherParam)
    (value : Int) : (t.write c schema p value).cipher = t.cipher := by
  unfold write
  split <;> rfl

/-- A value that is taken is written to its entry and to no other. -/
theorem table_write (t : Parameters) {c : Cipher} (schema : Schema) {p : CipherParam} {value : Int}
    (h : takes c p value = true) (c' : Cipher) (p' : CipherParam) :
    (t.write c schema p value).table c' p' =
      if c' = c ∧ p' = p then (t.table c' p').set schema value else t.table c' p' := by
  rw [write, if_pos h]
  -- the entry that is written, and any other
  by_cases hcp : c' = c ∧ p' = p
  · simp only [hcp, and_self, if_true]
  · simp only [if_neg hcp]

/-- The values of the versions are all taken. -/
theorem takes_versionParams {version : Int} {p : CipherParam} {value : Int}
    (h : versionParams version p = some value) : takes .sqlcipher p value = true := by
  unfold versionParams at h
  split at h <;> first | (cases h; decide) | cases h

end Parameters

end Engine

end SqliteMc
