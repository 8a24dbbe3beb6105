import SqliteMc.Lib.LinkedMap
import SqliteMc.Model.CipherConfig

/-!
# Encryption configurations and migrations

`EncryptionConfig.Builder` with its twelve cipher selectors, the migration builder that
extends it, and the configurations that hold the results. A selector comes in two
overloads: with an options block, which selects whenever an option function of the block
runs to its end, and with an existing configuration and a customisation block.

A migration's `note`, which only `toString` prints, is left out, and the directory of a
`FilesystemConfig` is left to the modules that use it. The set of migrations is a `LinkedMap`
to `Unit`: two migrations are equal when their encryption configurations are, and adding an
equal one again keeps its place.
-/

namespace SqliteMc

/-- `EncryptionConfig`; `equals` compares the three fields. -/
structure EncryptionConfig where
  cipherConfig : MCCipherConfig
  hmacCheck : Bool
  mcLegacyWAL : Bool
  deriving DecidableEq, Repr

/-- A block run on an `Options` object: which option functions it calls, each with its own
customisation block. -/
abbrev CipherDsl.OptionsBlock (D : CipherDsl) := Block (D.Start × Block D.Call)

namespace EncryptionConfig

structure Builder where
  cipherConfig : Option MCCipherConfig := none
  hmacCheck : Bool := true
  mcLegacyWAL : Bool := false

namespace Builder

def new : Option EncryptionConfig → Builder
  | none => {}
  | some other =>
    { cipherConfig := some other.cipherConfig
      hmacCheck := other.hmacCheck
      mcLegacyWAL := other.mcLegacyWAL }

def setHmacCheck (b : Builder) (value : Bool) : Builder := { b with hmacCheck := value }

def setMcLegacyWAL (b : Builder) (value : Bool) : Builder := { b with mcLegacyWAL := value }

-- ---------------------------------------------------------------------------
-- Selectors
-- ---------------------------------------------------------------------------

/-- An option function: `Builder(start).apply(block).build()`, handed to `setCipher`. -/
def option (D : CipherDsl) (wrap : D.Config → MCCipherConfig) (b : Builder)
    (opt : D.Start × Block D.Call) : Except Throwable Builder :=
  (D.customise (D.start opt.1) opt.2).map fun c => { b with cipherConfig := some (wrap c) }

/-- `Options { cipherConfig = it }.apply(block)`: the builder afterwards, and the exception
that escaped the block. -/
def selectOptions (D : CipherDsl) (wrap : D.Config → MCCipherConfig) (b : Builder)
    (block : D.OptionsBlock) : Builder × Option Throwable :=
  (runCalls (option D wrap) b block.calls, block.escapes)

/-- `cipherConfig = Builder(other).apply(block).build()`. -/
def selectOther (D : CipherDsl) (wrap : D.Config → MCCipherConfig) (b : Builder)
    (other : D.Config) (block : Block D.Call) : Builder × Option Throwable :=
  match D.customise other block with
  | .ok c => ({ b with cipherConfig := some (wrap c) }, none)
  | .error t => (b, some t)

def ascon128Options (b : Builder) (block : MCAscon128Config.dsl.OptionsBlock) :
    Builder × Option Throwable :=
  selectOptions MCAscon128Config.dsl .ascon128 b block

/-- `MCAscon128Config.Builder(other).apply(block)`: the customised builder is not built and
`cipherConfig` is not written. -/
def ascon128 (b : Builder) (_other : MCAscon128Config) (block : Block MCAscon128Config.Call) :
    Builder × Option Throwable :=
  (b, block.escapes)

def chaCha20Options (b : Builder) (block : MCChaCha20Config.dsl.OptionsBlock) :
    Builder × Option Throwable :=
  selectOptions MCChaCha20Config.dsl .chaCha20 b block

def chaCha20 (b : Builder) (other : MCChaCha20Config) (block : Block MCChaCha20Config.Call) :
    Builder × Option Throwable :=
  selectOther MCChaCha20Config.dsl .chaCha20 b other block

def rc4Options (b : Builder) (block : MCRC4Config.dsl.OptionsBlock) :
    Builder × Option Throwable :=
  selectOptions MCRC4Config.dsl .rc4 b block

def rc4 (b : Builder) (other : MCRC4Config) (block : Block MCRC4Config.Call) :
    Builder × Option Throwable :=
  selectOther MCRC4Config.dsl .rc4 b other block

def sqlCipherOptions (b : Builder) (block : MCSqlCipherConfig.dsl.OptionsBlock) :
    Builder × Option Throwable :=
  selectOptions MCSqlCipherConfig.dsl .sqlCipher b block

def sqlCipher (b : Builder) (other : MCSqlCipherConfig) (block : Block MCSqlCipherConfig.Call) :
    Builder × Option Throwable :=
  selectOther MCSqlCipherConfig.dsl .sqlCipher b other block

def wxAES128Options (b : Builder) (block : MCWxAES128Config.dsl.OptionsBlock) :
    Builder × Option Throwable :=
  selectOptions MCWxAES128Config.dsl .wxAES128 b block

def wxAES128 (b : Builder) (other : MCWxAES128Config) (block : Block MCWxAES128Config.Call) :
    Builder × Option Throwable :=
  selectOther MCWxAES128Config.dsl .wxAES128 b other block

def wxAES256Options (b : Builder) (block : MCWxAES256Config.dsl.OptionsBlock) :
    Builder × Option Throwable :=
  selectOptions MCWxAES256Config.dsl .wxAES256 b block

def wxAES256 (b : Builder) (other : MCWxAES256Config) (block : Block MCWxAES256Config.Call) :
    Builder × Option Throwable :=
  selectOther MCWxAES256Config.dsl .wxAES256 b other block

/-- The calls user code can make on the builder. -/
inductive Call where
  | hmacCheck (value : Bool)
  | mcLegacyWAL (value : Bool)
  | ascon128Options (block : MCAscon128Config.dsl.OptionsBlock)
  | ascon128 (other : MCAscon128Config) (block : Block MCAscon128Config.Call)
  | chaCha20Options (block : MCChaCha20Config.dsl.OptionsBlock)
  | chaCha20 (other : MCChaCha20Config) (block : Block MCChaCha20Config.Call)
  | rc4Options (block : MCRC4Config.dsl.OptionsBlock)
  | rc4 (other : MCRC4Config) (block : Block MCRC4Config.Call)
  | sqlCipherOptions (block : MCSqlCipherConfig.dsl.OptionsBlock)
  | sqlCipher (other : MCSqlCipherConfig) (block : Block MCSqlCipherConfig.Call)
  | wxAES128Options (block : MCWxAES128Config.dsl.OptionsBlock)
  | wxAES128 (other : MCWxAES128Config) (block : Block MCWxAES128Config.Call)
  | wxAES256Options (block : MCWxAES256Config.dsl.OptionsBlock)
  | wxAES256 (other : MCWxAES256Config) (block : Block MCWxAES256Config.Call)

/-- The builder after a call, and the exception the call threw, if any. -/
def call (b : Builder) : Call → Builder × Option Throwable
  | .hmacCheck value => (b.setHmacCheck value, none)
  | .mcLegacyWAL value => (b.setMcLegacyWAL value, none)
  | .ascon128Options block => b.ascon128Options block
  | .ascon128 other block => b.ascon128 other block
  | .chaCha20Options block => b.chaCha20Options block
  | .chaCha20 other block => b.chaCha20 other block
  | .rc4Options block => b.rc4Options block
  | .rc4 other block => b.rc4 other block
  | .sqlCipherOptions block => b.sqlCipherOptions block
  | .sqlCipher other block => b.sqlCipher other block
  | .wxAES128Options block => b.wxAES128Options block
  | .wxAES128 other block => b.wxAES128 other block
  | .wxAES256Options block => b.wxAES256Options block
  | .wxAES256 other block => b.wxAES256 other block

/-- The builder after a sequence of calls. -/
def run (b : Builder) (calls : List Call) : Builder := calls.foldl (fun b c => (b.call c).1) b

def build (b : Builder) : Option EncryptionConfig :=
  b.cipherConfig.map fun c =>
    { cipherConfig := c, hmacCheck := b.hmacCheck, mcLegacyWAL := b.mcLegacyWAL }

end Builder

/-- `EncryptionConfig.newOrNull(other, block)`. -/
def newOrNull (other : Option EncryptionConfig) (block : Block Builder.Call) :
    Except Throwable (Option EncryptionConfig) :=
  match block.escapes with
  | none => .ok ((Builder.new other).run block.calls).build
  | some t => .error t

/-- `EncryptionConfig.Default`: `chaCha20(MCChaCha20Config.Default)`. -/
def Default : EncryptionConfig where
  cipherConfig := .chaCha20 MCChaCha20Config.Default
  hmacCheck := true
  mcLegacyWAL := false

example : newOrNull none ⟨[.chaCha20 MCChaCha20Config.Default ⟨[], none⟩], none⟩ =
    .ok (some Default) := rfl

/-- The configuration's cipher configuration came out of its builder. -/
def Built (c : EncryptionConfig) : Prop := c.cipherConfig.Built

/-- The default encryption is built from the default of its cipher. -/
theorem built_Default : Default.Built :=
  CipherDsl.Built.fresh (D := MCChaCha20Config.dsl) [MCChaCha20Config.Call.default]

-- ---------------------------------------------------------------------------
-- Built configurations
-- ---------------------------------------------------------------------------

namespace Builder

/-- The configuration handed to a call came out of its builder. -/
def Call.Built : Call → Prop
  | .ascon128 other _ => MCAscon128Config.dsl.Built other
  | .chaCha20 other _ => MCChaCha20Config.dsl.Built other
  | .rc4 other _ => MCRC4Config.dsl.Built other
  | .sqlCipher other _ => MCSqlCipherConfig.dsl.Built other
  | .wxAES128 other _ => MCWxAES128Config.dsl.Built other
  | .wxAES256 other _ => MCWxAES256Config.dsl.Built other
  | _ => True

/-- What the builder holds, if anything, came out of a cipher builder. -/
def Built (b : Builder) : Prop := ∀ c ∈ b.cipherConfig, c.Built

theorem built_selectOptions (D : CipherDsl) (wrap : D.Config → MCCipherConfig) {b : Builder}
    (hwrap : ∀ c, D.Built c → (wrap c).Built) (hstart : ∀ s, D.Built (D.start s)) (hb : b.Built)
    (block : D.OptionsBlock) : (selectOptions D wrap b block).1.Built := by
  refine runCalls_invariant (I := Built) ?_ hb block.calls
  intro b opt b' hb hopt
  -- a block that throws leaves the builder as it was; any other one selects what it built
  cases hc : D.customise (D.start opt.1) opt.2 with
  | error t =>
    rw [option, hc] at hopt
    cases hopt
  | ok c =>
    rw [option, hc] at hopt
    cases hopt
    intro k hk
    cases hk
    exact hwrap c (CipherDsl.built_of_customise (hstart opt.1) hc)

/-- A selection that starts from another configuration keeps the builder built. -/
theorem built_selectOther (D : CipherDsl) (wrap : D.Config → MCCipherConfig) {b : Builder}
    (hwrap : ∀ c, D.Built c → (wrap c).Built) {other : D.Config} (hother : D.Built other)
    (hb : b.Built) (block : Block D.Call) : (selectOther D wrap b other block).1.Built := by
  unfold selectOther
  cases hc : D.customise other block with
  | error t => exact hb
  | ok c =>
    intro k hk
    cases hk
    exact hwrap c (CipherDsl.built_of_customise hother hc)

/-- The starting points of the options classes come out of the builders. -/
theorem built_start_sqlCipher (s : MCSqlCipherConfig.Start) :
    MCSqlCipherConfig.dsl.Built (MCSqlCipherConfig.dsl.start s) := by
  cases s with
  | default => exact CipherDsl.Built.fresh (D := MCSqlCipherConfig.dsl) [MCSqlCipherConfig.Call.default]
  | v1 => exact CipherDsl.Built.fresh (D := MCSqlCipherConfig.dsl) [MCSqlCipherConfig.Call.v1]
  | v2 => exact CipherDsl.Built.fresh (D := MCSqlCipherConfig.dsl) [MCSqlCipherConfig.Call.v2]
  | v3 => exact CipherDsl.Built.fresh (D := MCSqlCipherConfig.dsl) [MCSqlCipherConfig.Call.v3]
  | v4 => exact CipherDsl.Built.fresh (D := MCSqlCipherConfig.dsl) [MCSqlCipherConfig.Call.v4]

/-- Each start of `chaCha20` is a built configuration. -/
theorem built_start_chaCha20 (s : MCChaCha20Config.Start) :
    MCChaCha20Config.dsl.Built (MCChaCha20Config.dsl.start s) := by
  cases s with
  | default => exact CipherDsl.Built.fresh (D := MCChaCha20Config.dsl) [MCChaCha20Config.Call.default]
  | sqleet => exact CipherDsl.Built.fresh (D := MCChaCha20Config.dsl) [MCChaCha20Config.Call.sqleet]

/-- A call on the builder keeps it built. -/
theorem built_call {b : Builder} (hb : b.Built) {c : Call} (hc : c.Built) : (b.call c).1.Built := by
  cases c with
  | hmacCheck value => exact hb
  | mcLegacyWAL value => exact hb
  | ascon128Options block =>
    exact built_selectOptions MCAscon128Config.dsl .ascon128 (fun _ h => h)
      (fun _ => .fresh (D := MCAscon128Config.dsl) [MCAscon128Config.Call.default]) hb block
  -- this overload selects nothing, whatever it is handed
  | ascon128 other block => exact hb
  | chaCha20Options block =>
    exact built_selectOptions MCChaCha20Config.dsl .chaCha20 (fun _ h => h) built_start_chaCha20 hb
      block
  | chaCha20 other block =>
    exact built_selectOther MCChaCha20Config.dsl .chaCha20 (fun _ h => h) hc hb block
  | rc4Options block =>
    exact built_selectOptions MCRC4Config.dsl .rc4 (fun _ h => h)
      (fun _ => .fresh (D := MCRC4Config.dsl) [MCRC4Config.Call.default]) hb block
  | rc4 other block => exact built_selectOther MCRC4Config.dsl .rc4 (fun _ h => h) hc hb block
  | sqlCipherOptions block =>
    exact built_selectOptions MCSqlCipherConfig.dsl .sqlCipher (fun _ h => h)
      built_start_sqlCipher hb block
  | sqlCipher other block =>
    exact built_selectOther MCSqlCipherConfig.dsl .sqlCipher (fun _ h => h) hc hb block
  | wxAES128Options block =>
    exact built_selectOptions MCWxAES128Config.dsl .wxAES128 (fun _ h => h)
      (fun _ => .fresh (D := MCWxAES128Config.dsl) [MCWxAES128Config.Call.default]) hb block
  | wxAES128 other block =>
    exact built_selectOther MCWxAES128Config.dsl .wxAES128 (fun _ h => h) hc hb block
  | wxAES256Options block =>
    exact built_selectOptions MCWxAES256Config.dsl .wxAES256 (fun _ h => h)
      (fun _ => .fresh (D := MCWxAES256Config.dsl) [MCWxAES256Config.Call.default]) hb block
  | wxAES256 other block =>
    exact built_selectOther MCWxAES256Config.dsl .wxAES256 (fun _ h => h) hc hb block

/-- A sequence of calls on a builder that holds a built configuration keeps it so. -/
theorem built_run {b : Builder} (hb : b.Built) {calls : List Call} (hcalls : ∀ c ∈ calls, c.Built) :
    (b.run calls).Built := by
  unfold run
  induction calls generalizing b with
  | nil => exact hb
  | cons c rest ih =>
    rw [List.foldl_cons]
    exact ih (built_call hb (hcalls c List.mem_cons_self))
      fun x hx => hcalls x (List.mem_cons_of_mem c hx)

end Builder

/-- Every configuration that comes out of the builder is a built one, if those handed to it
were. -/
theorem built_of_build {other : Option EncryptionConfig} (hother : ∀ o ∈ other, o.Built)
    {calls : List Builder.Call} (hcalls : ∀ c ∈ calls, c.Built) {c : EncryptionConfig}
    (h : ((Builder.new other).run calls).build = some c) : c.Built := by
  have hnew : (Builder.new other).Built := by
    -- the builder starts with what `other` has selected, or with nothing
    cases other with
    | none =>
      intro k hk
      cases hk
    | some o =>
      intro k hk
      cases hk
      exact hother o rfl
  obtain ⟨k, hk, rfl⟩ := Option.map_eq_some_iff.mp h
  exact Builder.built_run hnew hcalls k hk

end EncryptionConfig

/-- The encryption configurations user code can get hold of. -/
def BuiltEncryptionConfig := { c : EncryptionConfig // c.Built }

-- ---------------------------------------------------------------------------
-- Migrations
-- ---------------------------------------------------------------------------

/-- `EncryptionMigration`; `equals` compares the encryption configurations. -/
structure EncryptionMigration where
  encryptionConfig : EncryptionConfig
  deriving DecidableEq

/-- `EncryptionMigration.Builder().apply(block).buildMigration()`. -/
def EncryptionMigration.buildMigration (block : Block EncryptionConfig.Builder.Call) :
    Except Throwable (Option EncryptionMigration) :=
  (EncryptionConfig.newOrNull none block).map fun config => config.map EncryptionMigration.mk

/-- `EncryptionMigrationConfig`, with its migrations in insertion order. -/
structure EncryptionMigrationConfig where
  migrations : LinkedMap EncryptionMigration Unit
  deriving DecidableEq

namespace EncryptionMigrationConfig

structure Builder where
  migrations : LinkedMap EncryptionMigration Unit := .empty

inductive Builder.Call where
  | migrationFrom (block : Block EncryptionConfig.Builder.Call)
  | migrationFromExisting (other : EncryptionMigration)

namespace Builder

def new : Option EncryptionMigrationConfig → Builder
  | none => {}
  | some other => { migrations := LinkedMap.empty.putAll other.migrations.entries }

def add (b : Builder) (migration : EncryptionMigration) : Builder :=
  { migrations := b.migrations.put migration () }

def migrationFrom (b : Builder) (block : Block EncryptionConfig.Builder.Call) :
    Except Throwable Builder := do
  match ← EncryptionMigration.buildMigration block with
  | some migration => return b.add migration
  | none => return b

def call (b : Builder) : Call → Except Throwable Builder
  | .migrationFrom block => b.migrationFrom block
  | .migrationFromExisting other => .ok (b.add other)

def build (b : Builder) : Option EncryptionMigrationConfig :=
  if b.migrations.isEmpty then none else some { migrations := b.migrations }

end Builder

/-- The migrations are inherited in their order. -/
theorem builder_new (c : EncryptionMigrationConfig) : Builder.new (some c) = ⟨c.migrations⟩ :=
  congrArg Builder.mk (LinkedMap.putAll_entries c.migrations)

end EncryptionMigrationConfig

-- ---------------------------------------------------------------------------
-- FilesystemConfig
-- ---------------------------------------------------------------------------

/-- `FilesystemConfig`, as far as encryption goes. -/
structure FilesystemConfig where
  encryptionConfig : EncryptionConfig
  encryptionMigrationConfig : Option EncryptionMigrationConfig

namespace FilesystemConfig

structure Builder where
  encryptionMigrationConfig : Option EncryptionMigrationConfig := none
  encryptionConfig : Option EncryptionConfig := none

inductive Builder.Call where
  | encryptionMigrations (block : Block EncryptionMigrationConfig.Builder.Call)
  | encryptionMigrationsExisting (other : Option EncryptionMigrationConfig)
  | encryption (block : Block EncryptionConfig.Builder.Call)
  | encryptionExisting (other : Option EncryptionConfig)

namespace Builder

/-- `Builder(other)`. -/
def new (other : FilesystemConfig) : Builder where
  encryptionMigrationConfig := other.encryptionMigrationConfig
  encryptionConfig := some other.encryptionConfig

def encryptionMigrations (b : Builder) (block : Block EncryptionMigrationConfig.Builder.Call) :
    Except Throwable Builder :=
  match block.escapes with
  | none =>
    .ok { b with
      encryptionMigrationConfig :=
        (runCalls EncryptionMigrationConfig.Builder.call {} block.calls).build }
  | some t => .error t

def encryption (b : Builder) (block : Block EncryptionConfig.Builder.Call) :
    Except Throwable Builder := do
  return { b with encryptionConfig := ← EncryptionConfig.newOrNull none block }

def call (b : Builder) : Call → Except Throwable Builder
  | .encryptionMigrations block => b.encryptionMigrations block
  | .encryptionMigrationsExisting other => .ok { b with encryptionMigrationConfig := other }
  | .encryption block => b.encryption block
  | .encryptionExisting other => .ok { b with encryptionConfig := other }

/-- An omitted encryption configuration becomes the default one. -/
def build (b : Builder) : FilesystemConfig where
  encryptionConfig := b.encryptionConfig.getD EncryptionConfig.Default
  encryptionMigrationConfig := b.encryptionMigrationConfig

end Builder

end FilesystemConfig

end SqliteMc
