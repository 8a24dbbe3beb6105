import SqliteMc.Model.EncryptionConfig
import SqliteMc.Model.Pragma

/-!
# From configurations to pragma maps

`MCCipherConfig.applyPragmas`, `EncryptionConfig.applyPragmas` and `applyKeyPragma`. A
configuration writes its legacy level and, unless `addAll` is set, only the fields that
differ from the preset of that level.

`EncryptionConfig.emitted` says which integer each pragma is given, if any, and
`get?_applyPragmas` that the map holds just these. From it come the closed forms of the
statements: `keyStatements_eq` and `rekeyStatements_eq`.
-/

namespace SqliteMc

-- ---------------------------------------------------------------------------
-- Presets
-- ---------------------------------------------------------------------------

/-- The preset a ChaCha20 configuration is compared with. -/
def MCChaCha20Config.preset (c : MCChaCha20Config) : MCChaCha20Config :=
  if c.legacy = 0 then MCChaCha20Config.Default else MCChaCha20Config.SQLeet

/-- The preset a SQLCipher configuration is compared with. -/
def MCSqlCipherConfig.preset (c : MCSqlCipherConfig) : MCSqlCipherConfig :=
  if c.legacy = 0 then MCSqlCipherConfig.Default
  else if c.legacy = 1 then MCSqlCipherConfig.v1
  else if c.legacy = 2 then MCSqlCipherConfig.v2
  else if c.legacy = 3 then MCSqlCipherConfig.v3
  else MCSqlCipherConfig.v4

-- ---------------------------------------------------------------------------
-- Writing pragmas
-- ---------------------------------------------------------------------------

namespace MCPragma

def putIf (p : MCPragma) (cond : Prop) [Decidable cond] (value : p.FieldType) (m : MCPragmas) :
    MCPragmas :=
  if cond then p.put m value else m

def putIfNotNull (p : MCPragma) (cond : Prop) [Decidable cond] (value : Option p.FieldType)
    (m : MCPragmas) : MCPragmas :=
  match value with
  | none => m
  | some v => p.putIf cond v m

/-- A put leaves its own pragma with the new text and every other pragma as it was. -/
@[simp] theorem get?_mput (p q : MCPragma) (value : p.FieldType) (m : MCPragmas) :
    (p.put m value).get? q = if q = p then some (p.transform value) else m.get? q :=
  LinkedMap.get?_put m p q _

/-- A put with a condition that does not hold leaves every pragma as it was. -/
@[simp] theorem get?_putIf (p q : MCPragma) (cond : Prop) [Decidable cond] (value : p.FieldType)
    (m : MCPragmas) :
    (p.putIf cond value m).get? q =
      if q = p ∧ cond then some (p.transform value) else m.get? q := by
  unfold putIf
  by_cases hq : q = p <;> by_cases hc : cond <;> simp [hq, hc]

/-- As `get?_putIf`, with a value that may be missing as a second condition. -/
@[simp] theorem get?_putIfNotNull (p q : MCPragma) (cond : Prop) [Decidable cond]
    (value : Option p.FieldType) (m : MCPragmas) :
    (p.putIfNotNull cond value m).get? q =
      if q = p ∧ cond ∧ value.isSome then value.map p.transform else m.get? q := by
  cases value <;> simp [putIfNotNull]

end MCPragma

open MCPragma (putIf putIfNotNull)

namespace MCChaCha20Config

def apply (c : MCChaCha20Config) (pragmas : MCPragmas) (addAll : Bool) : MCPragmas :=
  let config := c.preset
  let pragmas := putIf .legacyPageSize (addAll ∨ c.legacyPageSize ≠ config.legacyPageSize)
    c.legacyPageSize pragmas
  putIf .kdfIter (addAll ∨ c.kdfIter ≠ config.kdfIter) c.kdfIter pragmas

end MCChaCha20Config

namespace MCRC4Config

def apply (c : MCRC4Config) (pragmas : MCPragmas) (addAll : Bool) : MCPragmas :=
  putIf .legacyPageSize (addAll ∨ c.legacyPageSize ≠ Default.legacyPageSize) c.legacyPageSize
    pragmas

end MCRC4Config

namespace MCSqlCipherConfig

def apply (c : MCSqlCipherConfig) (pragmas : MCPragmas) (addAll : Bool) : MCPragmas :=
  let config := c.preset
  let pragmas := putIf .legacyPageSize (addAll ∨ c.legacyPageSize ≠ config.legacyPageSize)
    c.legacyPageSize pragmas
  let pragmas := putIf .kdfIter (addAll ∨ c.kdfIter ≠ config.kdfIter) c.kdfIter pragmas
  let pragmas := putIf .fastKdfIter (addAll ∨ c.fastKdfIter ≠ config.fastKdfIter)
    c.fastKdfIter pragmas
  let pragmas := putIf .hmacUse (addAll ∨ c.hmacUse ≠ config.hmacUse) c.hmacUse pragmas
  let pragmas := putIfNotNull .hmacPngo (addAll ∨ c.hmacPngo ≠ config.hmacPngo) c.hmacPngo pragmas
  let pragmas := putIfNotNull .hmacSaltMask (addAll ∨ c.hmacSaltMask ≠ config.hmacSaltMask)
    c.hmacSaltMask pragmas
  let pragmas := putIf .kdfAlgorithm (addAll ∨ c.kdfAlgorithm ≠ config.kdfAlgorithm)
    c.kdfAlgorithm pragmas
  let pragmas := putIf .hmacAlgorithm (addAll ∨ c.hmacAlgorithm ≠ config.hmacAlgorithm)
    c.hmacAlgorithm pragmas
  putIfNotNull .plainTextHeaderSize (addAll ∨ c.plaintextHeaderSize ≠ config.plaintextHeaderSize)
    c.plaintextHeaderSize pragmas

end MCSqlCipherConfig

namespace MCWxAES128Config

def apply (c : MCWxAES128Config) (pragmas : MCPragmas) (addAll : Bool) : MCPragmas :=
  let config := Default
  putIf .legacyPageSize (addAll ∨ c.legacyPageSize ≠ config.legacyPageSize) c.legacyPageSize
    pragmas

end MCWxAES128Config

namespace MCWxAES256Config

def apply (c : MCWxAES256Config) (pragmas : MCPragmas) (addAll : Bool) : MCPragmas :=
  let config := Default
  let pragmas := putIf .legacyPageSize (addAll ∨ c.legacyPageSize ≠ config.legacyPageSize)
    c.legacyPageSize pragmas
  putIf .kdfIter (addAll ∨ c.kdfIter ≠ config.kdfIter) c.kdfIter pragmas

end MCWxAES256Config

namespace MCAscon128Config

def apply (c : MCAscon128Config) (pragmas : MCPragmas) (addAll : Bool) : MCPragmas :=
  let config := Default
  putIf .kdfIter (addAll ∨ c.kdfIter ≠ config.kdfIter) c.kdfIter pragmas

end MCAscon128Config

def MCCipherConfig.applyPragmas (c : MCCipherConfig) (pragmas : MCPragmas) (addAll : Bool) :
    MCPragmas :=
  let pragmas := MCPragma.cipher.put pragmas c.cipher
  let pragmas := MCPragma.legacy.put pragmas c.legacy
  match c with
  | .chaCha20 config => config.apply pragmas addAll
  | .rc4 config => config.apply pragmas addAll
  | .sqlCipher config => config.apply pragmas addAll
  | .wxAES128 config => config.apply pragmas addAll
  | .wxAES256 config => config.apply pragmas addAll
  | .ascon128 config => config.apply pragmas addAll

namespace EncryptionConfig

def applyPragmas (c : EncryptionConfig) (pragmas : MCPragmas) (addAll : Bool) : MCPragmas :=
  let pragmas :=
    if pragmas.contains .cipher then pragmas else c.cipherConfig.applyPragmas pragmas addAll
  let pragmas := putIf .hmacCheck (addAll ∨ !c.hmacCheck) c.hmacCheck pragmas
  putIf .mcLegacyWal (addAll ∨ c.mcLegacyWAL) c.mcLegacyWAL pragmas

def applyKeyPragma (c : EncryptionConfig) (pragmas : MCPragmas) (key : Key) (isRekey : Bool) :
    Except Throwable MCPragmas := do
  let value ← key.retrieveFormatted c.cipherConfig.cipher
  return if isRekey then MCPragma.reKey.put pragmas value else MCPragma.key.put pragmas value

/-- `mutableMCPragmas().apply { config.applyPragmas(this, addAll).applyKeyPragma(this, key,
isRekey) }`. -/
def pragmas (c : EncryptionConfig) (addAll : Bool) (key : Key) (isRekey : Bool) :
    Except Throwable MCPragmas :=
  c.applyKeyPragma (c.applyPragmas .empty addAll) key isRekey

end EncryptionConfig

-- ---------------------------------------------------------------------------
-- The fields of a configuration
-- ---------------------------------------------------------------------------

def boolInt (b : Bool) : Int32 := if b then 1 else 0

namespace MCCipherConfig

/-- The non-null numeric fields, as the integers the transformers print. -/
def field : MCCipherConfig → MCPragma → Option Int32
  | chaCha20 c, .legacy => some c.legacy
  | chaCha20 c, .legacyPageSize => some c.legacyPageSize
  | chaCha20 c, .kdfIter => some c.kdfIter
  | rc4 c, .legacy => some c.legacy
  | rc4 c, .legacyPageSize => some c.legacyPageSize
  | sqlCipher c, .legacy => some c.legacy
  | sqlCipher c, .legacyPageSize => some c.legacyPageSize
  | sqlCipher c, .kdfIter => some c.kdfIter
  | sqlCipher c, .fastKdfIter => some c.fastKdfIter
  | sqlCipher c, .hmacUse => some (boolInt c.hmacUse)
  | sqlCipher c, .hmacPngo => c.hmacPngo.map HmacPngo.ordinal
  | sqlCipher c, .hmacSaltMask => c.hmacSaltMask.map Int8.toInt32
  | sqlCipher c, .kdfAlgorithm => some c.kdfAlgorithm.ordinal
  | sqlCipher c, .hmacAlgorithm => some c.hmacAlgorithm.ordinal
  | sqlCipher c, .plainTextHeaderSize => c.plaintextHeaderSize
  | wxAES128 c, .legacy => some c.legacy
  | wxAES128 c, .legacyPageSize => some c.legacyPageSize
  | wxAES256 c, .legacy => some c.legacy
  | wxAES256 c, .legacyPageSize => some c.legacyPageSize
  | wxAES256 c, .kdfIter => some c.kdfIter
  | ascon128 c, .legacy => some c.legacy
  | ascon128 c, .legacyPageSize => some c.legacyPageSize
  | ascon128 c, .kdfIter => some c.kdfIter
  | _, _ => none

/-- The configuration the fields are compared with. -/
def preset : MCCipherConfig → MCCipherConfig
  | chaCha20 c => chaCha20 c.preset
  | rc4 _ => rc4 MCRC4Config.Default
  | sqlCipher c => sqlCipher c.preset
  | wxAES128 _ => wxAES128 MCWxAES128Config.Default
  | wxAES256 _ => wxAES256 MCWxAES256Config.Default
  | ascon128 _ => ascon128 MCAscon128Config.Default

/-- The integer a pragma is given: the legacy level always, another field if it differs
from the preset's or all are asked for. ASCON has no page size pragma. -/
def emitted (c : MCCipherConfig) (addAll : Bool) (p : MCPragma) : Option Int32 :=
  if p = .legacy then c.field p
  else if c.cipher = .ascon128 ∧ p = .legacyPageSize then none
  else if addAll ∨ c.field p ≠ c.preset.field p then c.field p
  else none

end MCCipherConfig

/-- The fields of an encryption configuration and of its cipher configuration. -/
def EncryptionConfig.field (c : EncryptionConfig) : MCPragma → Option Int32
  | .hmacCheck => some (boolInt c.hmacCheck)
  | .mcLegacyWal => some (boolInt c.mcLegacyWAL)
  | p => c.cipherConfig.field p

/-- The integer a pragma is given by `applyPragmas`. -/
def EncryptionConfig.emitted (c : EncryptionConfig) (addAll : Bool) : MCPragma → Option Int32
  | .hmacCheck => if addAll ∨ !c.hmacCheck then some (boolInt c.hmacCheck) else none
  | .mcLegacyWal => if addAll ∨ c.mcLegacyWAL then some (boolInt c.mcLegacyWAL) else none
  | p => c.cipherConfig.emitted addAll p

-- ---------------------------------------------------------------------------
-- What the maps hold
-- ---------------------------------------------------------------------------

/-- The two flags are written differently. -/
private theorem boolInt_inj {a b : Bool} : boolInt a = boolInt b ↔ a = b := by
  cases a <;> cases b <;> decide

/-- Different page number encodings have different ordinals. -/
private theorem pngo_ordinal_inj {a b : HmacPngo} : a.ordinal = b.ordinal ↔ a = b := by
  cases a <;> cases b <;> decide

/-- Different HMAC algorithms have different ordinals. -/
private theorem hmacAlgorithm_ordinal_inj {a b : HmacAlgorithm} :
    a.ordinal = b.ordinal ↔ a = b := by
  cases a <;> cases b <;> decide

/-- Different KDF algorithms have different ordinals. -/
private theorem kdfAlgorithm_ordinal_inj {a b : KdfAlgorithm} : a.ordinal = b.ordinal ↔ a = b := by
  cases a <;> cases b <;> decide

/-- Different bytes are different integers. -/
private theorem toInt32_inj {a b : Int8} : a.toInt32 = b.toInt32 ↔ a = b := by
  rw [← Int32.toInt_inj, Int8.toInt_toInt32, Int8.toInt_toInt32, Int8.toInt_inj]

/-- What tells values apart tells optional values apart. -/
private theorem map_inj {α β : Type} {f : α → β} (hf : ∀ {a b : α}, f a = f b ↔ a = b)
    {x y : Option α} : x.map f = y.map f ↔ x = y := by
  cases x <;> cases y <;> simp [hf]

/-- A salt mask is written in decimal, with its sign. -/
theorem transform_hmacSaltMask (v : Int8) :
    MCPragma.hmacSaltMask.transform v = Text.ofInt32 v.toInt32 := by
  show Text.ofInt v.toInt = Text.ofInt v.toInt32.toInt
  rw [Int8.toInt_toInt32]

/-- A nullable field is printed as its integer, under equivalent conditions. -/
private theorem ite_isSome_map {α : Type} {f : α → Text} {g : α → Int32}
    (hf : ∀ v, f v = Text.ofInt32 (g v)) {P Q : Prop} [Decidable P] [Decidable Q] (h : P ↔ Q)
    (x : Option α) :
    (if P ∧ x.isSome then x.map f else none) = (if Q then x.map g else none).map Text.ofInt32 := by
  cases x with
  | none => by_cases hQ : Q <;> simp [h, hQ]
  | some v => by_cases hQ : Q <;> simp [h, hQ, hf]

/-- What the map of a cipher configuration holds. -/
theorem MCCipherConfig.get?_applyPragmas (c : MCCipherConfig) (addAll : Bool) (p : MCPragma) :
    (c.applyPragmas .empty addAll).get? p =
      if p = .cipher then some c.cipher.name else (c.emitted addAll p).map Text.ofInt32 := by
  cases c with
  | chaCha20 c =>
    cases p <;> simp [applyPragmas, MCChaCha20Config.apply, emitted, field, preset,
      MCCipherConfig.cipher, MCCipherConfig.legacy, MCPragma.transform]
  | rc4 c =>
    cases p <;> simp [applyPragmas, MCRC4Config.apply, emitted, field, preset,
      MCCipherConfig.cipher, MCCipherConfig.legacy, MCPragma.transform]
  | sqlCipher c =>
    cases p <;> simp [applyPragmas, MCSqlCipherConfig.apply, emitted, field, preset,
      MCCipherConfig.cipher, MCCipherConfig.legacy, MCPragma.transform]
    -- `apply` compares the fields, `emitted` the integers that are printed
    case hmacUse =>
      simp only [boolInt_inj]
      rfl
    case hmacPngo =>
      refine ite_isSome_map (fun _ => rfl) ?_ c.hmacPngo
      rw [map_inj pngo_ordinal_inj]
    case hmacSaltMask =>
      refine ite_isSome_map transform_hmacSaltMask ?_ c.hmacSaltMask
      rw [map_inj toInt32_inj]
    case kdfAlgorithm => simp only [kdfAlgorithm_ordinal_inj]
    case hmacAlgorithm => simp only [hmacAlgorithm_ordinal_inj]
    case plainTextHeaderSize =>
      -- the one nullable field that is an integer already
      have h : ∀ (P : Prop) [Decidable P],
          (if P ∧ c.plaintextHeaderSize.isSome then
            c.plaintextHeaderSize.map MCPragma.plainTextHeaderSize.transform else none) =
          (if P then c.plaintextHeaderSize.map id else none).map Text.ofInt32 :=
        fun P _ => ite_isSome_map (fun _ => rfl) Iff.rfl c.plaintextHeaderSize
      rw [h, Option.map_id_fun, id]
      congr
  | wxAES128 c =>
    cases p <;> simp [applyPragmas, MCWxAES128Config.apply, emitted, field, preset,
      MCCipherConfig.cipher, MCCipherConfig.legacy, MCPragma.transform]
  | wxAES256 c =>
    cases p <;> simp [applyPragmas, MCWxAES256Config.apply, emitted, field, preset,
      MCCipherConfig.cipher, MCCipherConfig.legacy, MCPragma.transform]
  | ascon128 c =>
    cases p <;> simp [applyPragmas, MCAscon128Config.apply, emitted, field, preset,
      MCCipherConfig.cipher, MCCipherConfig.legacy, MCPragma.transform]

/-- A pragma that the cipher has no field for is not emitted. -/
theorem MCCipherConfig.emitted_of_field_eq_none {c : MCCipherConfig} {p : MCPragma}
    (h : c.field p = none) (addAll : Bool) : c.emitted addAll p = none := by
  unfold emitted
  split_ifs <;> first | exact h | rfl

/-- What is emitted is the value of the field. -/
theorem MCCipherConfig.emitted_eq_some {c : MCCipherConfig} {addAll : Bool} {p : MCPragma}
    {n : Int32} (h : c.emitted addAll p = some n) : c.field p = some n := by
  unfold emitted at h
  split_ifs at h <;> exact h

/-- The two pragmas that are not the cipher's are left to the encryption configuration. -/
theorem MCCipherConfig.field_hmacCheck (c : MCCipherConfig) : c.field .hmacCheck = none := by
  cases c <;> rfl

/-- No cipher has a field for `mc_legacy_wal`: it comes from the encryption configuration. -/
theorem MCCipherConfig.field_mcLegacyWal (c : MCCipherConfig) : c.field .mcLegacyWal = none := by
  cases c <;> rfl

/-- A pragma is given the value of its field. -/
theorem EncryptionConfig.emitted_eq_some {c : EncryptionConfig} {addAll : Bool} {p : MCPragma}
    {n : Int32} (h : c.emitted addAll p = some n) : c.field p = some n := by
  cases p with
  | hmacCheck => exact (Option.ite_none_right_eq_some.mp h).2
  | mcLegacyWal => exact (Option.ite_none_right_eq_some.mp h).2
  | _ => exact MCCipherConfig.emitted_eq_some h

/-- What the map of an encryption configuration holds. -/
theorem EncryptionConfig.get?_applyPragmas (c : EncryptionConfig) (addAll : Bool) (p : MCPragma) :
    (c.applyPragmas .empty addAll).get? p =
      if p = .cipher then some c.cipherConfig.cipher.name
      else (c.emitted addAll p).map Text.ofInt32 := by
  have hempty : (LinkedMap.empty : MCPragmas).contains .cipher = false := rfl
  have hcipher := c.cipherConfig.get?_applyPragmas addAll p
  have hcheck := MCCipherConfig.emitted_of_field_eq_none c.cipherConfig.field_hmacCheck addAll
  have hwal := MCCipherConfig.emitted_of_field_eq_none c.cipherConfig.field_mcLegacyWal addAll
  unfold applyPragmas
  simp only [hempty, if_neg Bool.false_ne_true, MCPragma.get?_putIf, hcipher]
  -- the two pragmas that are put over those of the cipher configuration
  cases p with
  | hmacCheck =>
    rw [hcheck, if_neg (fun h => absurd h.1 (by decide))]
    by_cases h : addAll = true ∨ (!c.hmacCheck) = true
    · rw [if_pos ⟨rfl, h⟩, emitted, if_pos h]
      rfl
    · rw [if_neg (fun hand => h hand.2), emitted, if_neg h]
  | mcLegacyWal =>
    rw [hwal]
    by_cases h : addAll = true ∨ c.mcLegacyWAL = true
    · rw [if_pos ⟨rfl, h⟩, emitted, if_pos h]
      rfl
    · rw [if_neg (fun hand => h hand.2), if_neg (fun h => absurd h.1 (by decide)), emitted,
        if_neg h]
  | _ => simp [emitted]

-- ---------------------------------------------------------------------------
-- Closed forms of the statements
-- ---------------------------------------------------------------------------

namespace EncryptionConfig

/-- The parameter pragmas that are set, in the order of `ALL`. -/
def settings (c : EncryptionConfig) (addAll : Bool) : List (MCPragma × Int32) :=
  MCPragma.parameters.filterMap fun p => (c.emitted addAll p).map fun n => (p, n)

/-- The statements that select the cipher and set its parameters. -/
def configStatements (c : EncryptionConfig) (addAll : Bool) (schema : Schema) : List Statement :=
  .cipher schema c.cipherConfig.cipher.name ::
    (c.settings addAll).map fun s => .config schema s.1 s.2

def keyStatements (c : EncryptionConfig) (addAll : Bool) (value : Text) : List Statement :=
  c.configStatements addAll .main ++ [.key value]

def rekeyStatements (c : EncryptionConfig) (addAll : Bool) (value : Text) : List Statement :=
  [.selectSchema, .journalModeDelete] ++ (c.configStatements addAll .temp ++ [.rekey value]) ++
    c.keyStatements addAll value

end EncryptionConfig

namespace MCPragmas

/-- The map holds the configuration and the formatted key, under `RE_KEY` or `KEY`. -/
def Holds (m : MCPragmas) (c : EncryptionConfig) (addAll : Bool) (isRekey : Bool) (value : Text) :
    Prop :=
  ∀ p, m.get? p =
    if p = .cipher then some c.cipherConfig.cipher.name
    else if p = .key then if isRekey then none else some value
    else if p = .reKey then if isRekey then some value else none
    else (c.emitted addAll p).map Text.ofInt32

/-- The value of a parameter pragma. -/
theorem Holds.parameter {m : MCPragmas} {c : EncryptionConfig} {addAll isRekey : Bool}
    {value : Text} (h : m.Holds c addAll isRekey value) {p : MCPragma}
    (hp : p ∈ MCPragma.parameters) : m.get? p = (c.emitted addAll p).map Text.ofInt32 := by
  have hne : p ≠ .cipher ∧ p ≠ .key ∧ p ≠ .reKey := by
    refine ⟨?_, ?_, ?_⟩ <;> rintro rfl <;> exact absurd hp (by decide)
  rw [h p, if_neg hne.1, if_neg hne.2.1, if_neg hne.2.2]

/-- The statement of a parameter pragma that is given an integer. -/
theorem of_ofInt32 {p : MCPragma} (hp : p ∈ MCPragma.parameters) (schema : Schema) (n : Int32) :
    Statement.of schema p (Text.ofInt32 n) = some (.config schema p n) := by
  have hn := Text.toIntOrNull_ofInt32 n
  simp only [MCPragma.parameters, List.mem_cons, List.not_mem_nil, or_false] at hp
  rcases hp with rfl | rfl | rfl | rfl | rfl | rfl | rfl | rfl | rfl | rfl | rfl | rfl <;>
    simp only [Statement.of, hn, Option.map_some]

/-- The part of a schema, but for the key. -/
theorem Holds.part_settings {m : MCPragmas} {c : EncryptionConfig} {addAll isRekey : Bool}
    {value : Text} (h : m.Holds c addAll isRekey value) (schema : Schema) :
    m.part schema settingPragmas = c.configStatements addAll schema := by
  have hcipher : m.get? .cipher = some c.cipherConfig.cipher.name := h .cipher
  -- each parameter of the map was printed from the integer that is read back
  have hparameters : MCPragma.parameters.filterMap
      (fun p => (m.get? p).bind (Statement.of schema p)) =
        (c.settings addAll).map fun s => .config schema s.1 s.2 := by
    rw [EncryptionConfig.settings, List.map_filterMap]
    apply List.filterMap_congr
    intro p hp
    rw [h.parameter hp]
    cases c.emitted addAll p with
    | none => rfl
    | some n => exact of_ofInt32 hp schema n
  unfold part settingPragmas
  rw [List.filterMap_cons_some (by rw [hcipher]; rfl), hparameters]
  rfl

/-- The statements of a map that holds a configuration and a key. -/
theorem toMCSQLStatements_of_holds {m : MCPragmas} {c : EncryptionConfig}
    {addAll isRekey : Bool} {value : Text} (h : m.Holds c addAll isRekey value) :
    toMCSQLStatements m =
      .ok (if isRekey then c.rekeyStatements addAll value else c.keyStatements addAll value) := by
  have hrekey : m.contains .reKey = isRekey := by
    rw [contains_eq, h .reKey]
    cases isRekey <;> rfl
  -- none of the checks fails, and each parameter was printed from an integer
  have haccepted : ∃ sts, toMCSQLStatements m = .ok sts := by
    refine (toMCSQLStatements_isOk_iff m).mpr ⟨⟨_, c.cipherConfig.cipher, h .cipher, ?_⟩, ?_, ?_, ?_⟩
    · rw [Cipher.valueOf, Cipher.valueOfOrNull_name]
    · rw [contains_eq, h .legacy]
      cases hc : c.cipherConfig <;> simp [EncryptionConfig.emitted, MCCipherConfig.emitted, hc,
        MCCipherConfig.field]
    · rw [hrekey, contains_eq, h .key]
      cases isRekey
      · exact Or.inr rfl
      · exact Or.inl rfl
    · intro p hp v hget
      rw [h.parameter hp] at hget
      obtain ⟨n, -, rfl⟩ := Option.map_eq_some_iff.mp hget
      rw [Text.toIntOrNull_ofInt32]
      exact Option.some_ne_none n
  obtain ⟨sts, hsts⟩ := haccepted
  rw [hsts, toMCSQLStatements_eq_part hsts, hrekey, all_eq, part_append, part_append,
    h.part_settings, h.part_settings]
  -- the parts end in the key, and the `temp` part of a rekey map in the rekey
  cases isRekey with
  | false =>
    rw [if_neg Bool.false_ne_true, part_of_key (h .key) (h .reKey)]
    rfl
  | true =>
    rw [part_of_reKey (h .key) (h .reKey), part_of_reKey (h .key) (h .reKey)]
    rfl

/-- Swapping a rekey map gives the key map of the same configuration and key. -/
theorem holds_swapped {m : MCPragmas} {c : EncryptionConfig} {addAll : Bool} {value : Text}
    (h : m.Holds c addAll true value) : (swapped m).Holds c addAll false value := by
  have hkey : m.contains .key = false := by
    rw [contains_eq, h .key]
    rfl
  intro p
  rw [get?_swapped hkey, h p, h .reKey]
  cases p <;> rfl

end MCPragmas

namespace EncryptionConfig

open MCPragmas (Holds)

/-- What building a map comes to: an illegal argument if the cipher does not take the key,
else a map that holds the configuration and the key. -/
theorem pragmas_eq_ok {c : EncryptionConfig} {addAll isRekey : Bool} {key : Key} {m : MCPragmas}
    (h : c.pragmas addAll key isRekey = .ok m) :
    ∃ value, key.retrieveFormatted c.cipherConfig.cipher = .ok value ∧
      m.Holds c addAll isRekey value := by
  obtain ⟨value, hvalue, hm⟩ := bind_eq_ok.mp h
  refine ⟨value, hvalue, ?_⟩
  -- a configuration puts no key itself
  have hnone : ∀ p, p = .key ∨ p = .reKey → c.emitted addAll p = none := by
    rintro p (rfl | rfl)
    all_goals
      refine MCCipherConfig.emitted_of_field_eq_none ?_ addAll
      cases c.cipherConfig <;> rfl
  intro p
  cases isRekey with
  | true =>
    cases hm
    rw [if_pos rfl, MCPragma.get?_mput, get?_applyPragmas]
    cases p <;> first | rfl | exact congrArg (Option.map Text.ofInt32) (hnone .key (Or.inl rfl))
  | false =>
    cases hm
    rw [if_neg Bool.false_ne_true, MCPragma.get?_mput, get?_applyPragmas]
    cases p <;> first | rfl | exact congrArg (Option.map Text.ofInt32) (hnone .reKey (Or.inr rfl))

/-- With a key that its cipher accepts a configuration has its pragmas. -/
theorem pragmas_of_accepts {c : EncryptionConfig} {key : Key}
    (h : c.cipherConfig.cipher.accepts key = true) (addAll isRekey : Bool) :
    ∃ m, c.pragmas addAll key isRekey = .ok m := by
  obtain ⟨value, hvalue⟩ := (Cipher.accepts_iff _ key).mp h
  exact ⟨_, by rw [pragmas, applyKeyPragma, hvalue]; rfl⟩

/-- With a key that its cipher refuses it has none, and the error is the one that names the key.
-/
theorem pragmas_of_not_accepts {c : EncryptionConfig} {key : Key}
    (h : c.cipherConfig.cipher.accepts key = false) (addAll isRekey : Bool) :
    ∃ message, c.pragmas addAll key isRekey = .error (.illegalArgument message) := by
  obtain ⟨message, hmessage⟩ := Cipher.refused_of_not_accepts h
  exact ⟨message, by rw [pragmas, applyKeyPragma, hmessage]; rfl⟩

end EncryptionConfig

end SqliteMc
