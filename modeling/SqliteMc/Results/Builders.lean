import SqliteMc.Model.ApplyPragmas
import SqliteMc.Model.CipherInvariant
import SqliteMc.Model.SharedConfig
import SqliteMc.Results.Factory
import SqliteMc.Results.HashCode
import SqliteMc.Results.Selection

/-!
# What the builders guarantee

* `cipher_builder_invariant` — every configuration that a cipher builder builds is within the
  bounds of its cipher, and the nullable fields of SQLCipher are null at the levels that do
  not have them.
* `inherited_unchanged` — building from a configuration keeps it, but for what the block sets
  and for what SQLCipher's `build` repairs.
-/

namespace SqliteMc

/-! ## The bounds of a cipher -/

/-- The first and the last legacy level of a cipher. -/
def Cipher.legacyLevels : Cipher → Int × Int
  | .aes128cbc => (0, 1)
  | .aes256cbc => (0, 1)
  | .chacha20 => (0, 1)
  | .sqlcipher => (0, 4)
  | .rc4 => (1, 1)
  | .ascon128 => (0, 0)

/-- The nullable fields are null at the legacy levels that do not have them, and there only. -/
structure MCSqlCipherConfig.Repaired (c : MCSqlCipherConfig) : Prop where
  hmacPngo_null : c.hmacPngo = none ↔ c.legacy = 1
  hmacSaltMask_null : c.hmacSaltMask = none ↔ c.legacy = 1
  hmacSaltMask : ∀ v, c.hmacSaltMask = some v → 0 ≤ v.toInt ∧ v.toInt ≤ 127
  plaintextHeaderSize_null : c.plaintextHeaderSize = none ↔ 1 ≤ c.legacy.toInt ∧ c.legacy.toInt ≤ 3
  plaintextHeaderSize : ∀ v, c.plaintextHeaderSize = some v →
    0 ≤ v.toInt ∧ v.toInt ≤ 96 ∧ v.toInt % 16 = 0

/-- A configuration is within the bounds of its cipher. -/
structure MCCipherConfig.WithinBounds (c : MCCipherConfig) : Prop where
  legacy : c.cipher.legacyLevels.1 ≤ c.legacy.toInt ∧ c.legacy.toInt ≤ c.cipher.legacyLevels.2
  legacyPageSize : ∀ v, c.field .legacyPageSize = some v → PageSize v
  kdfIter : ∀ v, c.field .kdfIter = some v → 1 ≤ v.toInt
  fastKdfIter : ∀ v, c.field .fastKdfIter = some v → 1 ≤ v.toInt
  repaired : ∀ config, c = .sqlCipher config → config.Repaired

/-- A configuration that meets the builder's checks is repaired. -/
theorem MCSqlCipherConfig.Valid.repaired {c : MCSqlCipherConfig} (h : c.Valid) : c.Repaired where
  hmacPngo_null := h.hmacPngo_null
  hmacSaltMask_null := h.hmacSaltMask_null
  hmacSaltMask v hv := ⟨h.hmacSaltMask v hv, by have := v.toInt_lt; omega⟩
  plaintextHeaderSize_null := by
    rw [h.plaintextHeaderSize_null, Int32.le_iff_toInt_le, Int32.le_iff_toInt_le]
    rfl
  plaintextHeaderSize := h.plaintextHeaderSize

/--
**The invariant of the cipher builders.** Whatever presets and setters are called on a builder,
from scratch or from another configuration, whichever of the calls throw: the configuration
that is built is within the bounds of its cipher.
-/
theorem cipher_builder_invariant (c : MCCipherConfig) (hbuilt : c.Built) : c.WithinBounds := by
  have hvalid := MCCipherConfig.valid_of_built hbuilt
  cases c with
  | chaCha20 c =>
    exact {
      legacy := hvalid.legacy
      legacyPageSize := by rintro v ⟨⟩; exact hvalid.legacyPageSize
      kdfIter := by rintro v ⟨⟩; exact hvalid.kdfIter
      fastKdfIter := by rintro v ⟨⟩
      repaired := by rintro config ⟨⟩ }
  | rc4 c =>
    exact {
      -- the legacy level is a constant of the builder
      legacy := by
        rw [show (MCCipherConfig.rc4 c).legacy = 1 from hvalid.legacy]
        show (1 : Int) ≤ Int32.toInt 1 ∧ Int32.toInt 1 ≤ 1
        decide
      legacyPageSize := by rintro v ⟨⟩; exact hvalid.legacyPageSize
      kdfIter := by rintro v ⟨⟩
      fastKdfIter := by rintro v ⟨⟩
      repaired := by rintro config ⟨⟩ }
  | sqlCipher c =>
    exact {
      legacy := hvalid.legacy
      legacyPageSize := by rintro v ⟨⟩; exact hvalid.legacyPageSize
      kdfIter := by rintro v ⟨⟩; exact hvalid.kdfIter
      fastKdfIter := by rintro v ⟨⟩; exact hvalid.fastKdfIter
      repaired := by rintro config ⟨⟩; exact hvalid.repaired }
  | wxAES128 c =>
    exact {
      legacy := hvalid.legacy
      legacyPageSize := by rintro v ⟨⟩; exact hvalid.legacyPageSize
      kdfIter := by rintro v ⟨⟩
      fastKdfIter := by rintro v ⟨⟩
      repaired := by rintro config ⟨⟩ }
  | wxAES256 c =>
    exact {
      legacy := hvalid.legacy
      legacyPageSize := by rintro v ⟨⟩; exact hvalid.legacyPageSize
      kdfIter := by rintro v ⟨⟩; exact hvalid.kdfIter
      fastKdfIter := by rintro v ⟨⟩
      repaired := by rintro config ⟨⟩ }
  | ascon128 c =>
    exact {
      legacy := by
        rw [show (MCCipherConfig.ascon128 c).legacy = 0 from hvalid.legacy]
        show (0 : Int) ≤ Int32.toInt 0 ∧ Int32.toInt 0 ≤ 0
        decide
      legacyPageSize := by
        rintro v ⟨⟩
        rw [hvalid.legacyPageSize]
        exact pageSize_4096
      kdfIter := by rintro v ⟨⟩; exact hvalid.kdfIter
      fastKdfIter := by rintro v ⟨⟩
      repaired := by rintro config ⟨⟩ }

/-- The fields that `v1` makes null at a level that has them, and a page size that is refused. -/
theorem cipher_builder_invariant_v1 :
    (MCCipherConfig.sqlCipher (MCSqlCipherConfig.Builder.build (runCalls
      MCSqlCipherConfig.Builder.call {} [.v1, .legacy 4, .legacyPageSize 513]))).WithinBounds :=
  cipher_builder_invariant (.sqlCipher _)
    (.fresh (D := MCSqlCipherConfig.dsl) [.v1, .legacy 4, .legacyPageSize 513])

/-! ## Inheriting a cipher configuration -/

/-- What `Builder(c)` makes of a configuration: with an empty block the same one, and else the
fields that the block does not set are kept, up to a repair for the legacy level that comes
out. A call that throws sets nothing. -/
structure CipherDsl.Inherits (D : CipherDsl) (wrap : D.Config → MCCipherConfig)
    (sets : D.Call → MCPragma → Prop)
    (repair : Int32 → MCPragma → Option Int32 → Option Int32) (c : D.Config) : Prop where
  rebuilt : D.customise c ⟨[], none⟩ = .ok c
  kept : ∀ calls c', D.customise c ⟨calls, none⟩ = .ok c' → ∀ p,
    NoneSets D.call (sets · p) calls →
    (wrap c').field p = repair (wrap c').legacy p ((wrap c).field p)

/-- The fields are kept as they are. -/
def asIs (_ : Int32) (_ : MCPragma) (value : Option Int32) : Option Int32 := value

/-- To inherit it is enough that `build` copies and each setter writes its own field. -/
theorem CipherDsl.Inherits.of_copies {D : CipherDsl} {wrap : D.Config → MCCipherConfig}
    {sets : D.Call → MCPragma → Prop} {c : D.Config} (hnew : D.build (D.new (some c)) = c)
    (hcall : ∀ b call b' p, D.call b call = .ok b' → ¬ sets call p →
      (wrap (D.build b')).field p = (wrap (D.build b)).field p) :
    D.Inherits wrap sets asIs c where
  rebuilt := congrArg Except.ok hnew
  kept := by
    intro calls c' hc' p hnone
    cases hc'
    have hframe := hnone.frame (f := fun b => (wrap (D.build b)).field p)
      (fun b call b' h hp => hcall b call b' p h hp) (D.new (some c))
    rw [hnew] at hframe
    exact hframe

namespace MCChaCha20Config

def Call.sets : Call → MCPragma → Prop
  | .legacy _, p => p = .legacy
  | .legacyPageSize _, p => p = .legacyPageSize
  | .kdfIter _, p => p = .kdfIter
  | .default, _ => True
  | .sqleet, _ => True

theorem field_of_call {b b' : Builder} {call : Call} (h : b.call call = .ok b') {p : MCPragma}
    (hp : ¬ call.sets p) :
    (MCCipherConfig.chaCha20 b'.build).field p = (MCCipherConfig.chaCha20 b.build).field p := by
  cases call
  case default | sqleet => exact absurd trivial hp
  all_goals
    obtain ⟨-, rfl⟩ := checked_eq_ok.mp h
    cases p <;> first | rfl | exact absurd rfl hp

theorem inherits (c : MCChaCha20Config) : dsl.Inherits .chaCha20 Call.sets asIs c :=
  .of_copies rfl fun _ _ _ _ h hp => field_of_call h hp

end MCChaCha20Config

namespace MCRC4Config

def Call.sets : Call → MCPragma → Prop
  | .legacyPageSize _, p => p = .legacyPageSize
  | .default, _ => True

theorem field_of_call {b b' : Builder} {call : Call} (h : b.call call = .ok b') {p : MCPragma}
    (hp : ¬ call.sets p) :
    (MCCipherConfig.rc4 b'.build).field p = (MCCipherConfig.rc4 b.build).field p := by
  cases call
  case default => exact absurd trivial hp
  all_goals
    obtain ⟨-, rfl⟩ := checked_eq_ok.mp h
    cases p <;> first | rfl | exact absurd rfl hp

/-- The legacy level of a built configuration is the constant of the builder. -/
theorem inherits {c : MCRC4Config} (hbuilt : dsl.Built c) :
    dsl.Inherits .rc4 Call.sets asIs c := by
  refine .of_copies ?_ fun _ _ _ _ h hp => field_of_call h hp
  have hlegacy : (1 : Int32) = c.legacy := (valid_of_built hbuilt).legacy.symm
  exact congrArg (fun l => (⟨l, c.legacyPageSize⟩ : MCRC4Config)) hlegacy

end MCRC4Config

namespace MCWxAES128Config

def Call.sets : Call → MCPragma → Prop
  | .legacy _, p => p = .legacy
  | .legacyPageSize _, p => p = .legacyPageSize
  | .default, _ => True

theorem field_of_call {b b' : Builder} {call : Call} (h : b.call call = .ok b') {p : MCPragma}
    (hp : ¬ call.sets p) :
    (MCCipherConfig.wxAES128 b'.build).field p = (MCCipherConfig.wxAES128 b.build).field p := by
  cases call
  case default => exact absurd trivial hp
  all_goals
    obtain ⟨-, rfl⟩ := checked_eq_ok.mp h
    cases p <;> first | rfl | exact absurd rfl hp

theorem inherits (c : MCWxAES128Config) : dsl.Inherits .wxAES128 Call.sets asIs c :=
  .of_copies rfl fun _ _ _ _ h hp => field_of_call h hp

end MCWxAES128Config

namespace MCWxAES256Config

def Call.sets : Call → MCPragma → Prop
  | .legacy _, p => p = .legacy
  | .legacyPageSize _, p => p = .legacyPageSize
  | .kdfIter _, p => p = .kdfIter
  | .default, _ => True

theorem field_of_call {b b' : Builder} {call : Call} (h : b.call call = .ok b') {p : MCPragma}
    (hp : ¬ call.sets p) :
    (MCCipherConfig.wxAES256 b'.build).field p = (MCCipherConfig.wxAES256 b.build).field p := by
  cases call
  case default => exact absurd trivial hp
  all_goals
    obtain ⟨-, rfl⟩ := checked_eq_ok.mp h
    cases p <;> first | rfl | exact absurd rfl hp

theorem inherits (c : MCWxAES256Config) : dsl.Inherits .wxAES256 Call.sets asIs c :=
  .of_copies rfl fun _ _ _ _ h hp => field_of_call h hp

end MCWxAES256Config

namespace MCAscon128Config

def Call.sets : Call → MCPragma → Prop
  | .kdfIter _, p => p = .kdfIter
  | .default, _ => True

theorem field_of_call {b b' : Builder} {call : Call} (h : b.call call = .ok b') {p : MCPragma}
    (hp : ¬ call.sets p) :
    (MCCipherConfig.ascon128 b'.build).field p = (MCCipherConfig.ascon128 b.build).field p := by
  cases call
  case default => exact absurd trivial hp
  all_goals
    obtain ⟨-, rfl⟩ := checked_eq_ok.mp h
    cases p <;> first | rfl | exact absurd rfl hp

/-- Two fields of a built configuration are the constants of the builder. -/
theorem inherits {c : MCAscon128Config} (hbuilt : dsl.Built c) :
    dsl.Inherits .ascon128 Call.sets asIs c := by
  refine .of_copies ?_ fun _ _ _ _ h hp => field_of_call h hp
  have hvalid := valid_of_built hbuilt
  have hlegacy : (0 : Int32) = c.legacy := hvalid.legacy.symm
  have hpage : (4096 : Int32) = c.legacyPageSize := hvalid.legacyPageSize.symm
  exact congrArg₂ (fun l s => (⟨l, s, c.kdfIter⟩ : MCAscon128Config)) hlegacy hpage

end MCAscon128Config

/-! ## SQLCipher repairs -/

namespace MCSqlCipherConfig

def Call.sets : Call → MCPragma → Prop
  | .legacy _, p => p = .legacy
  | .legacyPageSize _, p => p = .legacyPageSize
  | .kdfIter _, p => p = .kdfIter
  | .fastKdfIter _, p => p = .fastKdfIter
  | .hmacUse _, p => p = .hmacUse
  | .hmacPngo _, p => p = .hmacPngo
  | .hmacSaltMask _, p => p = .hmacSaltMask
  | .kdfAlgorithm _, p => p = .kdfAlgorithm
  | .hmacAlgorithm _, p => p = .hmacAlgorithm
  | .plaintextHeaderSize _, p => p = .plainTextHeaderSize
  | .default, _ => True
  | .v1, _ => True
  | .v2, _ => True
  | .v3, _ => True
  | .v4, _ => True

/-- What `build` makes of a field at a legacy level. -/
def repair (legacy : Int32) : MCPragma → Option Int32 → Option Int32
  | .hmacPngo, value =>
    if legacy = 1 then none else some (value.getD HmacPngo.littleEndian.ordinal)
  | .hmacSaltMask, value => if legacy = 1 then none else some (value.getD 0x3a)
  | .plainTextHeaderSize, value =>
    if 1 ≤ legacy ∧ legacy ≤ 3 then none else some (value.getD 0)
  | _, value => value

/-- The fields of the builder as they are. -/
def Builder.fields (b : Builder) : MCSqlCipherConfig where
  legacy := b.legacy
  legacyPageSize := b.legacyPageSize
  kdfIter := b.kdfIter
  fastKdfIter := b.fastKdfIter
  hmacUse := b.hmacUse
  hmacPngo := b.hmacPngo
  hmacSaltMask := b.hmacSaltMask
  kdfAlgorithm := b.kdfAlgorithm
  hmacAlgorithm := b.hmacAlgorithm
  plaintextHeaderSize := b.plaintextHeaderSize

/-- A nullable field that is printed, repaired before or after. -/
private theorem map_repaired {α : Type} (f : α → Int32) (P : Prop) [Decidable P] (x : Option α)
    (d : α) : (if P then none else some (x.getD d)).map f =
      if P then none else some ((x.map f).getD (f d)) := by
  by_cases h : P
  · rw [if_pos h, if_pos h]
    rfl
  · rw [if_neg h, if_neg h]
    cases x <;> rfl

/-- What is built has the builder's fields, repaired for its version. -/
theorem field_build (b : Builder) (p : MCPragma) :
    (MCCipherConfig.sqlCipher b.build).field p =
      repair b.legacy p ((MCCipherConfig.sqlCipher b.fields).field p) := by
  cases p with
  | hmacPngo => exact map_repaired HmacPngo.ordinal (b.legacy = 1) b.hmacPngo .littleEndian
  | hmacSaltMask => exact map_repaired Int8.toInt32 (b.legacy = 1) b.hmacSaltMask 0x3a
  | _ => rfl

theorem field_of_call {b b' : Builder} {call : Call} (h : b.call call = .ok b') {p : MCPragma}
    (hp : ¬ call.sets p) :
    (MCCipherConfig.sqlCipher b'.fields).field p = (MCCipherConfig.sqlCipher b.fields).field p := by
  cases call
  case default | v1 | v2 | v3 | v4 => exact absurd trivial hp
  case hmacUse | hmacPngo | kdfAlgorithm | hmacAlgorithm =>
    cases h
    cases p <;> first | rfl | exact absurd rfl hp
  -- the setters that check their argument
  all_goals
    obtain ⟨-, rfl⟩ := checked_eq_ok.mp h
    cases p <;> first | rfl | exact absurd rfl hp

/-- A valid configuration comes out as it went in. -/
theorem build_new {c : MCSqlCipherConfig} (h : c.Valid) : (Builder.new (some c)).build = c := by
  calc (Builder.new (some c)).build
    _ = { c with
          hmacPngo := if c.legacy = 1 then none else some (c.hmacPngo.getD .littleEndian)
          hmacSaltMask := if c.legacy = 1 then none else some (c.hmacSaltMask.getD 0x3a)
          plaintextHeaderSize := if 1 ≤ c.legacy ∧ c.legacy ≤ 3 then none
            else some (c.plaintextHeaderSize.getD 0) } := rfl
    _ = c := by
      rw [repaired_eq_self h.hmacPngo_null, repaired_eq_self h.hmacSaltMask_null,
        repaired_eq_self h.plaintextHeaderSize_null]

theorem inherits {c : MCSqlCipherConfig} (hbuilt : dsl.Built c) :
    dsl.Inherits .sqlCipher Call.sets repair c where
  rebuilt := congrArg Except.ok (build_new (valid_of_built hbuilt))
  kept := by
    intro calls c' hc' p hnone
    cases hc'
    have hframe := hnone.frame (f := fun b : Builder => (MCCipherConfig.sqlCipher b.fields).field p)
      (fun _ _ _ h hp => field_of_call h hp) (Builder.new (some c))
    exact (field_build _ p).trans (congrArg (repair _ p) hframe)

end MCSqlCipherConfig

/-! ## Inheriting the other configurations -/

namespace EncryptionConfig

/-- What `c.new` makes of a configuration. -/
structure Inherits (c : EncryptionConfig) : Prop where
  rebuilt : new (some c) ⟨[], none⟩ = .ok c
  cipherConfig : ∀ calls c', new (some c) ⟨calls, none⟩ = .ok c' →
    (∀ call ∈ calls, call.selection = none) → c'.cipherConfig = c.cipherConfig
  hmacCheck : ∀ calls c', new (some c) ⟨calls, none⟩ = .ok c' →
    (∀ value, .hmacCheck value ∉ calls) → c'.hmacCheck = c.hmacCheck
  mcLegacyWAL : ∀ calls c', new (some c) ⟨calls, none⟩ = .ok c' →
    (∀ value, .mcLegacyWAL value ∉ calls) → c'.mcLegacyWAL = c.mcLegacyWAL

namespace Builder

/-- A selector writes nothing but the cipher configuration. -/
theorem exists_selectOptions (D : CipherDsl) (wrap : D.Config → MCCipherConfig) (b : Builder)
    (block : D.OptionsBlock) :
    ∃ selected, (selectOptions D wrap b block).1 = { b with cipherConfig := selected } := by
  refine runCalls_invariant (I := fun b' : Builder => ∃ x, b' = { b with cipherConfig := x }) ?_
    ⟨b.cipherConfig, rfl⟩ block.calls
  rintro _ opt b' ⟨x, rfl⟩ h
  unfold option at h
  -- an option that throws does not get to `setCipher`
  cases hc : D.customise (D.start opt.1) opt.2 with
  | error t =>
    rw [hc] at h
    cases h
  | ok c =>
    rw [hc] at h
    cases h
    exact ⟨_, rfl⟩

/-- Selecting an existing configuration changes the selected cipher only. -/
theorem exists_selectOther (D : CipherDsl) (wrap : D.Config → MCCipherConfig) (b : Builder)
    (other : D.Config) (block : Block D.Call) :
    ∃ selected, (selectOther D wrap b other block).1 = { b with cipherConfig := selected } := by
  unfold selectOther
  cases D.customise other block with
  | error t => exact ⟨b.cipherConfig, rfl⟩
  | ok c => exact ⟨_, rfl⟩

/-- What a call can write. -/
theorem call_cases (b : Builder) (c : Call) :
    (∃ value, c = .hmacCheck value) ∨ (∃ value, c = .mcLegacyWAL value) ∨
      ∃ selected, (b.call c).1 = { b with cipherConfig := selected } := by
  cases c with
  | hmacCheck value => exact Or.inl ⟨value, rfl⟩
  | mcLegacyWAL value => exact Or.inr (Or.inl ⟨value, rfl⟩)
  -- the configuration is built and dropped
  | ascon128 other block => exact Or.inr (Or.inr ⟨b.cipherConfig, rfl⟩)
  | ascon128Options block => exact Or.inr (Or.inr (exists_selectOptions MCAscon128Config.dsl _ b block))
  | chaCha20Options block => exact Or.inr (Or.inr (exists_selectOptions MCChaCha20Config.dsl _ b block))
  | rc4Options block => exact Or.inr (Or.inr (exists_selectOptions MCRC4Config.dsl _ b block))
  | sqlCipherOptions block => exact Or.inr (Or.inr (exists_selectOptions MCSqlCipherConfig.dsl _ b block))
  | wxAES128Options block => exact Or.inr (Or.inr (exists_selectOptions MCWxAES128Config.dsl _ b block))
  | wxAES256Options block => exact Or.inr (Or.inr (exists_selectOptions MCWxAES256Config.dsl _ b block))
  | chaCha20 other block => exact Or.inr (Or.inr (exists_selectOther MCChaCha20Config.dsl _ b other block))
  | rc4 other block => exact Or.inr (Or.inr (exists_selectOther MCRC4Config.dsl _ b other block))
  | sqlCipher other block => exact Or.inr (Or.inr (exists_selectOther MCSqlCipherConfig.dsl _ b other block))
  | wxAES128 other block => exact Or.inr (Or.inr (exists_selectOther MCWxAES128Config.dsl _ b other block))
  | wxAES256 other block => exact Or.inr (Or.inr (exists_selectOther MCWxAES256Config.dsl _ b other block))

/-- Calls that do not set `hmacCheck` leave it. -/
theorem run_hmacCheck {calls : List Call} (h : ∀ value, .hmacCheck value ∉ calls) (b : Builder) :
    (b.run calls).hmacCheck = b.hmacCheck := by
  refine List.foldlRecOn (motive := fun b' : Builder => b'.hmacCheck = b.hmacCheck) calls _ rfl ?_
  intro b' hb' c hc
  rcases b'.call_cases c with ⟨value, rfl⟩ | ⟨value, rfl⟩ | ⟨selected, hselected⟩
  · exact absurd hc (h value)
  · exact hb'
  · rw [hselected]
    exact hb'

/-- Calls that do not set `mcLegacyWAL` leave it. -/
theorem run_mcLegacyWAL {calls : List Call} (h : ∀ value, .mcLegacyWAL value ∉ calls)
    (b : Builder) : (b.run calls).mcLegacyWAL = b.mcLegacyWAL := by
  refine List.foldlRecOn (motive := fun b' : Builder => b'.mcLegacyWAL = b.mcLegacyWAL) calls _ rfl ?_
  intro b' hb' c hc
  rcases b'.call_cases c with ⟨value, rfl⟩ | ⟨value, rfl⟩ | ⟨selected, hselected⟩
  · exact hb'
  · exact absurd hc (h value)
  · rw [hselected]
    exact hb'

/-- The cipher configuration is kept if nothing is selected. -/
theorem run_cipherConfig_of_none {calls : List Call} (h : ∀ c ∈ calls, c.selection = none)
    (b : Builder) : (b.run calls).cipherConfig = b.cipherConfig := by
  have hlast : lastSelection b.cipherConfig (calls.filter fun c => !c.isAscon128Other) =
      lastSelection b.cipherConfig [] :=
    @lastSelection_append_of_none b.cipherConfig [] _ fun c hc => h c (List.mem_of_mem_filter hc)
  rw [run_cipherConfig, hlast]
  rfl

end Builder

/-- What the block leaves in the builder. -/
theorem new_eq_ok {c c' : EncryptionConfig} {calls : List Builder.Call}
    (h : new (some c) ⟨calls, none⟩ = .ok c') :
    ((Builder.new (some c)).run calls).cipherConfig = some c'.cipherConfig ∧
      ((Builder.new (some c)).run calls).hmacCheck = c'.hmacCheck ∧
      ((Builder.new (some c)).run calls).mcLegacyWAL = c'.mcLegacyWAL := by
  obtain ⟨built, hbuilt, h⟩ := bind_eq_ok.mp h
  cases hbuilt
  unfold Builder.build at h
  -- `newOrNull` gives null when no cipher was selected, and `new` throws then
  cases hcipher : ((Builder.new (some c)).run calls).cipherConfig with
  | none =>
    rw [hcipher] at h
    cases h
  | some cipherConfig =>
    rw [hcipher] at h
    cases h
    exact ⟨rfl, rfl, rfl⟩

theorem inherits (c : EncryptionConfig) : c.Inherits where
  rebuilt := rfl
  cipherConfig := by
    intro calls c' hc' hnone
    have hcipher := (new_eq_ok hc').1
    rw [Builder.run_cipherConfig_of_none hnone] at hcipher
    exact (Option.some_inj.mp hcipher).symm
  hmacCheck := by
    intro calls c' hc' hnone
    rw [← (new_eq_ok hc').2.1, Builder.run_hmacCheck hnone]
    rfl
  mcLegacyWAL := by
    intro calls c' hc' hnone
    rw [← (new_eq_ok hc').2.2, Builder.run_mcLegacyWAL hnone]
    rfl

end EncryptionConfig

namespace EncryptionMigrationConfig

/-- What `c.new` makes of a configuration: the migrations that it inherits come first, in their
order. -/
structure Inherits (c : EncryptionMigrationConfig) : Prop where
  rebuilt : new (some c) ⟨[], none⟩ = .ok c
  migrations : ∀ calls c', new (some c) ⟨calls, none⟩ = .ok c' →
    c.migrations.keys <+: c'.migrations.keys

/-- The migrations that were there stay, in their order and in front of new ones. -/
theorem inherits {c : EncryptionMigrationConfig} (hbuilt : c.Built) : c.Inherits where
  rebuilt := by
    have hempty := Bool.eq_false_iff.mp (c.built_iff.mp hbuilt)
    have hbuild : (Builder.new (some c)).build = some c := by
      rw [builder_new, Builder.build, if_neg hempty]
    exact bind_eq_ok.mpr ⟨some c, congrArg Except.ok hbuild, rfl⟩
  migrations := by
    intro calls c' hc'
    obtain ⟨built, hbuilt, h⟩ := bind_eq_ok.mp hc'
    cases hbuilt
    -- no migrations would build nothing, so there is a configuration and it has them all
    cases hbuild : (runCalls Builder.call (Builder.new (some c)) calls).build with
    | none =>
      rw [hbuild] at h
      cases h
    | some config =>
      rw [hbuild] at h
      cases h
      unfold Builder.build at hbuild
      split at hbuild
      · cases hbuild
      · cases hbuild
        rw [Builder.migrations_runCalls, builder_new]
        exact LinkedMap.keys_isPrefix_putAll _ _

end EncryptionMigrationConfig

namespace PragmaConfig

/-- The call may change what a name has in the map `ephemeral`. -/
def Builder.Call.setsEphemeral (name : Text) : Call → Prop
  | .put key _ => key = name
  | .putAll pairs => name ∈ pairs.map Prod.fst
  | .ephemeral write => ∃ m, (write m).get? name ≠ m.get? name
  | .filesystem _ => False

/-- The call may change what a name has in the map `filesystem`. -/
def Builder.Call.setsFilesystem (name : Text) : Call → Prop
  | .put key _ => key = name
  | .putAll pairs => name ∈ pairs.map Prod.fst
  | .ephemeral _ => False
  | .filesystem write => ∃ m, (write m).get? name ≠ m.get? name

/-- What `c.new` makes of a configuration: a map that is not written keeps its entries and
their order, and a name that is not set what it has. -/
structure Inherits (c : PragmaConfig) : Prop where
  rebuilt : new (some c) ⟨[], none⟩ = .ok c
  unwritten_ephemeral : ∀ calls c', new (some c) ⟨calls, none⟩ = .ok c' →
    (∀ call ∈ calls, ∃ write, call = .filesystem write) → c'.ephemeral = c.ephemeral
  unwritten_filesystem : ∀ calls c', new (some c) ⟨calls, none⟩ = .ok c' →
    (∀ call ∈ calls, ∃ write, call = .ephemeral write) → c'.filesystem = c.filesystem
  ephemeral : ∀ calls c', new (some c) ⟨calls, none⟩ = .ok c' → ∀ name,
    (∀ call ∈ calls, ¬ call.setsEphemeral name) → c'.ephemeral.get? name = c.ephemeral.get? name
  filesystem : ∀ calls c', new (some c) ⟨calls, none⟩ = .ok c' → ∀ name,
    (∀ call ∈ calls, ¬ call.setsFilesystem name) → c'.filesystem.get? name = c.filesystem.get? name

/-- A call that does not put or remove a pragma leaves its value in the ephemeral map. -/
theorem get?_ephemeral_call {b : Builder} {call : Builder.Call} {name : Text}
    (h : ¬ call.setsEphemeral name) :
    (b.call call).ephemeral.get? name = b.ephemeral.get? name := by
  cases call with
  | put key value => exact (LinkedMap.get?_put _ _ _ _).trans (if_neg fun heq => h heq.symm)
  | putAll pairs => exact LinkedMap.get?_putAll_of_not_mem h _
  | ephemeral write =>
    by_contra hne
    exact h ⟨_, hne⟩
  | filesystem write => rfl

/-- A call that does not put or remove a pragma leaves its value in the filesystem map. -/
theorem get?_filesystem_call {b : Builder} {call : Builder.Call} {name : Text}
    (h : ¬ call.setsFilesystem name) :
    (b.call call).filesystem.get? name = b.filesystem.get? name := by
  cases call with
  | put key value => exact (LinkedMap.get?_put _ _ _ _).trans (if_neg fun heq => h heq.symm)
  | putAll pairs => exact LinkedMap.get?_putAll_of_not_mem h _
  | ephemeral write => rfl
  | filesystem write =>
    by_contra hne
    exact h ⟨_, hne⟩

/-- `build` takes nothing out that was inherited. -/
theorem get?_removed {m m' : Pragmas} {name : Text}
    (hm : ∀ name ∈ Builder.removed, name ∉ m.keys) (h : m'.get? name = m.get? name) :
    (Builder.removed.foldl LinkedMap.remove m').get? name = m.get? name := by
  rw [LinkedMap.get?_removeAll, h]
  by_cases hname : name ∈ Builder.removed
  · have hnone := hm name hname
    rw [LinkedMap.mem_keys_iff, LinkedMap.contains, Option.isSome_iff_ne_none, not_not] at hnone
    rw [if_pos hname, hnone]
  · rw [if_neg hname]

/-- A block that throws nothing builds what its calls lead to. -/
theorem new_eq_ok {c c' : PragmaConfig} {calls : List Builder.Call} :
    new (some c) ⟨calls, none⟩ = .ok c' ↔
      (calls.foldl Builder.call ⟨c.ephemeral, c.filesystem⟩).build = c' := by
  rw [new, builder_new, Except.ok.injEq]

theorem inherits {c : PragmaConfig} (hbuilt : c.Built) : c.Inherits where
  rebuilt := by
    -- what was built had the pragmas removed, so removing them again changes nothing
    have hremoved := c.built_iff.mp hbuilt
    rw [new_eq_ok, List.foldl_nil, Builder.build,
      LinkedMap.removeAll_eq_self fun name h => (hremoved name h).1,
      LinkedMap.removeAll_eq_self fun name h => (hremoved name h).2]
  unwritten_ephemeral := by
    intro calls c' hc' hwrites
    -- only writes to the other map, so this one is kept
    have hkept : (calls.foldl Builder.call ⟨c.ephemeral, c.filesystem⟩).ephemeral = c.ephemeral := by
      refine List.foldlRecOn (motive := fun b : Builder => b.ephemeral = c.ephemeral) calls _ rfl ?_
      intro b hb call hcall
      obtain ⟨write, rfl⟩ := hwrites call hcall
      exact hb
    rw [← new_eq_ok.mp hc', Builder.build, hkept]
    exact LinkedMap.removeAll_eq_self fun name h => (c.built_iff.mp hbuilt name h).1
  unwritten_filesystem := by
    intro calls c' hc' hwrites
    have hkept : (calls.foldl Builder.call ⟨c.ephemeral, c.filesystem⟩).filesystem =
        c.filesystem := by
      refine List.foldlRecOn (motive := fun b : Builder => b.filesystem = c.filesystem) calls _ rfl ?_
      intro b hb call hcall
      obtain ⟨write, rfl⟩ := hwrites call hcall
      exact hb
    rw [← new_eq_ok.mp hc', Builder.build, hkept]
    exact LinkedMap.removeAll_eq_self fun name h => (c.built_iff.mp hbuilt name h).2
  ephemeral := by
    intro calls c' hc' name hnone
    rw [← new_eq_ok.mp hc']
    refine get?_removed (fun name h => (c.built_iff.mp hbuilt name h).1) ?_
    exact List.foldlRecOn
      (motive := fun b : Builder => b.ephemeral.get? name = c.ephemeral.get? name) calls _ rfl
      fun b hb call hcall => (get?_ephemeral_call (hnone call hcall)).trans hb
  filesystem := by
    intro calls c' hc' name hnone
    rw [← new_eq_ok.mp hc']
    refine get?_removed (fun name h => (c.built_iff.mp hbuilt name h).2) ?_
    exact List.foldlRecOn
      (motive := fun b : Builder => b.filesystem.get? name = c.filesystem.get? name) calls _ rfl
      fun b hb call hcall => (get?_filesystem_call (hnone call hcall)).trans hb

end PragmaConfig

namespace Native.PlatformConfig

/-- The configurations that builders build. -/
def Built (c : PlatformConfig) : Prop := ∃ other calls, new other ⟨calls, none⟩ = .ok c

/-- There is a reader connection. -/
theorem one_le_of_built {c : PlatformConfig} (hbuilt : c.Built) : ¬ c.maxReaderConnections < 1 := by
  obtain ⟨other, calls, h⟩ := hbuilt
  cases h
  unfold Builder.build
  split
  · decide
  · assumption

/-- The one field of the class is not raised again. -/
theorem rebuilt {c : PlatformConfig} (hbuilt : c.Built) : new (some c) ⟨[], none⟩ = .ok c := by
  have hbuild : (Builder.new (some c)).build = c :=
    congrArg PlatformConfig.mk (if_neg (one_le_of_built hbuilt))
  exact congrArg Except.ok hbuild

end Native.PlatformConfig

namespace FilesystemConfig

def Builder.Call.setsEncryptionConfig : Call → Prop
  | .encryption _ => True
  | .encryptionExisting _ => True
  | _ => False

def Builder.Call.setsEncryptionMigrationConfig : Call → Prop
  | .encryptionMigrations _ => True
  | .encryptionMigrationsExisting _ => True
  | _ => False

/-- What `c.new` makes of a configuration. -/
structure InDirectory.Inherits (c : InDirectory) : Prop where
  rebuilt : c.new ⟨[], none⟩ = .ok c
  databasesDir : ∀ calls c', c.new ⟨calls, none⟩ = .ok c' → c'.databasesDir = c.databasesDir
  encryptionConfig : ∀ calls c', c.new ⟨calls, none⟩ = .ok c' →
    NoneSets Builder.call Builder.Call.setsEncryptionConfig calls →
    c'.encryptionConfig = c.encryptionConfig
  encryptionMigrationConfig : ∀ calls c', c.new ⟨calls, none⟩ = .ok c' →
    NoneSets Builder.call Builder.Call.setsEncryptionMigrationConfig calls →
    c'.encryptionMigrationConfig = c.encryptionMigrationConfig

/-- A call that does not set the encryption leaves it. -/
theorem Builder.encryptionConfig_call {b b' : Builder} {call : Call} (h : b.call call = .ok b')
    (hcall : ¬ call.setsEncryptionConfig) : b'.encryptionConfig = b.encryptionConfig := by
  cases call with
  | encryptionMigrations block =>
    obtain ⟨calls, escapes⟩ := block
    cases escapes <;> cases h
    rfl
  | encryptionMigrationsExisting other =>
    cases h
    rfl
  | encryption block => exact absurd trivial hcall
  | encryptionExisting other => exact absurd trivial hcall

/-- A call that does not set the migrations leaves them. -/
theorem Builder.encryptionMigrationConfig_call {b b' : Builder} {call : Call}
    (h : b.call call = .ok b') (hcall : ¬ call.setsEncryptionMigrationConfig) :
    b'.encryptionMigrationConfig = b.encryptionMigrationConfig := by
  cases call with
  | encryptionMigrations block => exact absurd trivial hcall
  | encryptionMigrationsExisting other => exact absurd trivial hcall
  | encryption block =>
    obtain ⟨config, -, h⟩ := bind_eq_ok.mp h
    cases h
    rfl
  | encryptionExisting other =>
    cases h
    rfl

theorem InDirectory.inherits (c : InDirectory) : c.Inherits where
  rebuilt := rfl
  databasesDir := by
    intro calls c' hc'
    cases hc'
    rfl
  encryptionConfig := by
    intro calls c' hc' hnone
    cases hc'
    have hframe := hnone.frame (f := Builder.encryptionConfig)
      (fun _ _ _ h hcall => Builder.encryptionConfig_call h hcall) (Builder.new c.toFilesystemConfig)
    exact congrArg (Option.getD · EncryptionConfig.Default) hframe
  encryptionMigrationConfig := by
    intro calls c' hc' hnone
    cases hc'
    exact hnone.frame (f := Builder.encryptionMigrationConfig)
      (fun _ _ _ h hcall => Builder.encryptionMigrationConfig_call h hcall)
      (Builder.new c.toFilesystemConfig)

end FilesystemConfig

/--
**Inheriting a configuration changes nothing by itself.** A configuration that any history of
a builder has built, of each of the classes, comes out of a builder that inherits from it and
that nothing is called on: field by field and with the entries of its maps in the same order, so
that the same statements are made of it, and the same migrations are tried in the same order.
What is not set in a block is kept, but for the nullable fields of SQLCipher, that are null or
not as the legacy level requires.
-/
theorem inherited_unchanged :
    (∀ c, MCChaCha20Config.dsl.Built c →
      MCChaCha20Config.dsl.Inherits .chaCha20 MCChaCha20Config.Call.sets asIs c) ∧
    (∀ c, MCRC4Config.dsl.Built c →
      MCRC4Config.dsl.Inherits .rc4 MCRC4Config.Call.sets asIs c) ∧
    (∀ c, MCSqlCipherConfig.dsl.Built c →
      MCSqlCipherConfig.dsl.Inherits .sqlCipher MCSqlCipherConfig.Call.sets
        MCSqlCipherConfig.repair c) ∧
    (∀ c, MCWxAES128Config.dsl.Built c →
      MCWxAES128Config.dsl.Inherits .wxAES128 MCWxAES128Config.Call.sets asIs c) ∧
    (∀ c, MCWxAES256Config.dsl.Built c →
      MCWxAES256Config.dsl.Inherits .wxAES256 MCWxAES256Config.Call.sets asIs c) ∧
    (∀ c, MCAscon128Config.dsl.Built c →
      MCAscon128Config.dsl.Inherits .ascon128 MCAscon128Config.Call.sets asIs c) ∧
    (∀ c : EncryptionConfig, c.Inherits) ∧
    (∀ c : EncryptionMigrationConfig, c.Built → c.Inherits) ∧
    (∀ c : PragmaConfig, c.Built → c.Inherits) ∧
    (∀ c : Native.PlatformConfig, c.Built → Native.PlatformConfig.new (some c) ⟨[], none⟩ = .ok c) ∧
    (∀ c : JvmAndroid.PlatformConfig, JvmAndroid.PlatformConfig.new (some c) ⟨[], none⟩ = .ok c) ∧
    ∀ c : FilesystemConfig.InDirectory, c.Inherits := by
  refine ⟨fun c _ => c.inherits, fun _ h => MCRC4Config.inherits h,
    fun _ h => MCSqlCipherConfig.inherits h, fun c _ => c.inherits, fun c _ => c.inherits,
    fun _ h => MCAscon128Config.inherits h, EncryptionConfig.inherits,
    fun _ h => EncryptionMigrationConfig.inherits h, fun _ h => PragmaConfig.inherits h,
    fun _ h => Native.PlatformConfig.rebuilt h, fun _ => rfl, FilesystemConfig.InDirectory.inherits⟩

end SqliteMc
