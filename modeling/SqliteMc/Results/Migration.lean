import SqliteMc.Model.Reopening
import SqliteMc.Results.Faithful
import SqliteMc.Results.Key

/-!
# What a migration encrypts with

On the connection of a migration attempt the old configuration's key statements run first,
and set defaults as well as values; the current configuration's rekey statements then set
values only, and only for the fields that differ from its preset. An entry they leave alone
is still the old configuration's when `PRAGMA rekey` reads it (`migrated_value`).

`MigrationKeepsParams` says in terms of the two configurations when that does no harm. The file
can then be opened with the current configuration if this finds the page size and the salt in it,
or can do without them (`Found`); `migration_reencrypts_iff` says that both together are exact.
-/

namespace SqliteMc

open Engine

/-- The tables when the first `PRAGMA rekey` of the statements executes. -/
def Engine.tablesAtRekey (t : Parameters) (sts : List Statement) : Parameters :=
  run t (sts.takeWhile fun s => !s.isRekey)

/-- The tables of the connection on which the file is migrated from `old` to `current`,
when `PRAGMA rekey` executes. -/
def rekeyTables (old current : EncryptionConfig) (key rekey : Key) :
    Except Throwable Parameters := do
  let migrationPragma ← old.pragmas false key false
  let currentPragma ← current.pragmas false rekey true
  let keyStatements ← migrationPragma.toMCSQLStatements
  let rekeyStatements ← currentPragma.toMCSQLStatements
  return tablesAtRekey Parameters.new (keyStatements ++ rekeyStatements)

/-- The cipher and the parameters when `PRAGMA rekey` executes are those that the key statements of
`current` alone set up on a new connection. -/
def MigrationUsesParams (old current : EncryptionConfig) (key rekey : Key) : Prop :=
  ∃ t t0, rekeyTables old current key rekey = .ok t ∧ current.keyTables false rekey = .ok t0 ∧
    t.codec.cipher = t0.codec.cipher

/-! ## The tables at the rekey -/

/-- Setting up a codec from entries whose values are their defaults leaves them as they are. -/
theorem Engine.table_allocated {t : Parameters}
    (htable : ∀ c q, (bounds c q).isSome = true → (t.table c q).default = (t.table c q).value) :
    t.allocated.table = t.table := by
  funext c q
  show (if c = t.cipher ∧ t.reads c q = true then _ else _) = _
  split
  -- the entry is reset to its default, which is its value
  · rename_i h
    have hbounds : (bounds c q).isSome = true := (Bool.and_eq_true_iff.mp h.2).1
    have hvalue := htable c q hbounds
    show Setting.mk (t.table c q).default (t.table c q).default = t.table c q
    cases hentry : t.table c q
    rw [hentry] at hvalue
    simp only at hvalue ⊢
    rw [hvalue]
  · rfl

namespace EncryptionConfig

/-- Every setting of a configuration is made the default as well. -/
theorem configured_default {c : EncryptionConfig} (hbuilt : c.Built) (addAll : Bool) (k : Cipher)
    {q : CipherParam} (hbounds : (bounds k q).isSome = true) :
    ((c.configured addAll).table k q).default = ((c.configured addAll).table k q).value := by
  by_cases hk : c.cipherConfig.cipher = k
  · subst hk
    rw [configured_table hbuilt addAll hbounds]
  · rw [configured_table_of_ne c addAll hk]

/-- What the entry of a cipher holds once the key statements have run. -/
def leftover (c : EncryptionConfig) (k : Cipher) (q : CipherParam) : Int :=
  if c.cipherConfig.cipher = k then
    ((q.pragma.bind (c.cipherConfig.emitted false)).map Int32.toInt).getD (ownValue c.cipherConfig q)
  else builtin k q

/-- Once the key statements have run the tables hold what `leftover` says. -/
theorem configured_leftover {c : EncryptionConfig} (hbuilt : c.Built) (k : Cipher)
    {q : CipherParam} (hbounds : (bounds k q).isSome = true) :
    ((c.configured false).table k q).value = c.leftover k q := by
  unfold leftover
  -- the cipher of the configuration, and the others, which nobody wrote to
  by_cases hk : c.cipherConfig.cipher = k
  · subst hk
    rw [if_pos rfl, configured_table hbuilt false hbounds]
    show (Option.map _ (q.pragma.bind (c.emitted false))).getD _ = _
    cases hpragma : q.pragma with
    | none => rfl
    | some p =>
      have hparam : p.param = some q := (q.pragma_eq_some_iff p).mp hpragma
      rw [Option.bind_some, Option.bind_some, emitted_of_param hparam]
  · rw [if_neg hk, configured_table_of_ne c false hk]

/-- The tables of a migration's connection when `PRAGMA rekey` executes; `value` is the
formatted key. -/
def migrated (old current : EncryptionConfig) (value : Text) : Parameters :=
  Parameters.configPragmas .temp (current.emitted false)
    ((exec (old.configured false) (.key value)).selectCipher .temp
      current.cipherConfig.cipher.name)

/-- No setting is a rekey. -/
theorem isRekey_configStatements (c : EncryptionConfig) (schema : Schema) :
    ∀ s ∈ c.configStatements false schema, s.isRekey = false := by
  intro s hs
  rcases List.mem_cons.mp hs with rfl | hs
  · rfl
  · obtain ⟨x, -, rfl⟩ := List.mem_map.mp hs
    rfl

/-- No statement for a key is a rekey. -/
theorem isRekey_keyStatements (c : EncryptionConfig) (value : Text) :
    ∀ s ∈ c.keyStatements false value, s.isRekey = false := by
  intro s hs
  rcases List.mem_append.mp hs with hs | hs
  · exact isRekey_configStatements c .main s hs
  · rw [List.mem_singleton.mp hs]
    rfl

/-- The statements of a migration up to its `PRAGMA rekey`. -/
def beforeRekey (old current : EncryptionConfig) (value : Text) : List Statement :=
  old.configStatements false .main ++ [.key value, .selectSchema, .journalModeDelete] ++
    current.configStatements false .temp

/-- No statement in front of the rekey is one. -/
theorem isRekey_beforeRekey (old current : EncryptionConfig) (value : Text) :
    ∀ s ∈ old.beforeRekey current value, s.isRekey = false := by
  intro s hs
  simp only [beforeRekey, List.mem_append, List.mem_cons, List.not_mem_nil, or_false] at hs
  rcases hs with (hs | rfl | rfl | rfl) | hs
  · exact isRekey_configStatements old .main s hs
  · rfl
  · rfl
  · rfl
  · exact isRekey_configStatements current .temp s hs

/-- There is one `PRAGMA rekey` among the statements of a migration. -/
theorem keyStatements_append_rekeyStatements (old current : EncryptionConfig)
    (value revalue : Text) :
    old.keyStatements false value ++ current.rekeyStatements false revalue =
      old.beforeRekey current value ++ .rekey revalue :: current.keyStatements false revalue := by
  simp [keyStatements, rekeyStatements, beforeRekey]

/-- In front of the rekey stand the old settings and key, and the new settings. -/
theorem takeWhile_rekeyStatements (old current : EncryptionConfig) (value revalue : Text) :
    (old.keyStatements false value ++ current.rekeyStatements false revalue).takeWhile
        (fun s => !s.isRekey) =
      old.configStatements false .main ++ [.key value, .selectSchema, .journalModeDelete] ++
        current.configStatements false .temp := by
  rw [keyStatements_append_rekeyStatements, List.takeWhile_append_of_pos]
  · exact List.append_nil _
  · intro s hs
    rw [isRekey_beforeRekey old current value s hs]
    rfl

/-- The statements in front of the rekey, run on new parameters, lead to `migrated`. -/
theorem run_beforeRekey (old current : EncryptionConfig) (value : Text) :
    run Parameters.new (old.beforeRekey current value) = migrated old current value := by
  rw [beforeRekey, run_append, run_append, run_configStatements]
  rfl

/-- The statements of a migration lead to these tables. -/
theorem rekeyTables_eq {old current : EncryptionConfig} {key rekey : Key}
    (hkey : old.cipherConfig.cipher.accepts key = true)
    (hrekey : current.cipherConfig.cipher.accepts rekey = true) :
    ∃ value, rekeyTables old current key rekey = .ok (migrated old current value) := by
  -- both maps can be made, and both have their statements
  obtain ⟨m, hm⟩ := pragmas_of_accepts hkey false false
  obtain ⟨m', hm'⟩ := pragmas_of_accepts hrekey false true
  obtain ⟨value, -, hholds⟩ := pragmas_eq_ok hm
  obtain ⟨revalue, -, hholds'⟩ := pragmas_eq_ok hm'
  have hsts : m.toMCSQLStatements = .ok (old.keyStatements false value) :=
    MCPragmas.toMCSQLStatements_of_holds hholds
  have hsts' : m'.toMCSQLStatements = .ok (current.rekeyStatements false revalue) :=
    MCPragmas.toMCSQLStatements_of_holds hholds'
  refine ⟨value, bind_eq_ok.mpr ⟨m, hm, bind_eq_ok.mpr ⟨m', hm', bind_eq_ok.mpr ⟨_, hsts,
    bind_eq_ok.mpr ⟨_, hsts', ?_⟩⟩⟩⟩⟩
  rw [tablesAtRekey, takeWhile_rekeyStatements, ← run_beforeRekey]
  rfl

/-- The cipher that is migrated to is the current one. -/
theorem migrated_cipher (old current : EncryptionConfig) (value : Text) :
    (migrated old current value).cipher = current.cipherConfig.cipher := by
  rw [migrated, (Parameters.configPragmas_cipher _ _ _).1, selectCipher_name]

/-- An entry that the rekey statements leave alone is still the old configuration's. -/
theorem migrated_value {old current : EncryptionConfig} (hold : old.Built)
    (hcurrent : current.Built) (value : Text) {q : CipherParam}
    (hbounds : (bounds current.cipherConfig.cipher q).isSome = true) :
    ((migrated old current value).table current.cipherConfig.cipher q).value =
      (settle current.cipherConfig.cipher (current.emitted false) q).getD
        (old.leftover current.cipherConfig.cipher q) := by
  -- opening under the old key leaves the tables as they are
  have hkeyed : (exec (old.configured false) (.key value)).table = (old.configured false).table := by
    show (if value = emptyKey then old.configured false else
      (old.configured false).allocated).table = _
    split
    · rfl
    · exact table_allocated fun k q hq => configured_default hold false k hq
  have hcipher : ((exec (old.configured false) (.key value)).selectCipher .temp
      current.cipherConfig.cipher.name).cipher = current.cipherConfig.cipher := by
    rw [selectCipher_name]
  rw [migrated, Parameters.table_configPragmas hcipher .temp (takes_emitted hcurrent false)
    hbounds, Setting.value_update, selectCipher_name]
  show Option.getD _ ((exec (old.configured false) (.key value)).table _ q).value = _
  rw [hkeyed, configured_leftover hold _ hbounds]

end EncryptionConfig

/-! ## When the codecs agree -/

/-- The allocated cipher looks at the entry, at the legacy level `legacy`. -/
def Counts (c : Cipher) (legacy : Int) (q : CipherParam) : Prop :=
  ¬ (c = .chacha20 ∧ q = .kdfIter ∧ legacy ≠ 0) ∧
    ¬ (c = .sqlcipher ∧ q = .plaintextHeaderSize ∧ legacy < 4)

/-- At one legacy level two codecs agree when the entries that count do. -/
theorem Engine.inForce_eq_iff {t t' : Parameters} {c : Cipher} {legacy : Int}
    (h : (bounds c .legacy).isSome = true → (t.table c .legacy).value = legacy)
    (h' : (bounds c .legacy).isSome = true → (t'.table c .legacy).value = legacy) :
    t.inForce c = t'.inForce c ↔
      ∀ q, (bounds c q).isSome = true → Counts c legacy q →
        (t.table c q).value = (t'.table c q).value := by
  have hpoint : ∀ q, t.inForce c q = t'.inForce c q ↔
      ((bounds c q).isSome = true → Counts c legacy q →
        (t.table c q).value = (t'.table c q).value) := by
    intro q
    unfold Parameters.inForce
    cases hbounds : bounds c q with
    | none => simp
    | some b =>
      simp only [Option.isSome_some, forall_const]
      -- the two entries that do not count at every legacy level
      by_cases hchacha : c = .chacha20 ∧ q = .kdfIter
      · obtain ⟨rfl, rfl⟩ := hchacha
        rw [h rfl, h' rfl]
        by_cases hl : legacy = 0 <;> simp [Counts, hl]
      · by_cases hsql : c = .sqlcipher ∧ q = .plaintextHeaderSize
        · obtain ⟨rfl, rfl⟩ := hsql
          rw [h rfl, h' rfl]
          by_cases hl : legacy < 4 <;> simp [Counts, hl]
        · have hcounts : Counts c legacy q :=
            ⟨fun hand => hchacha ⟨hand.1, hand.2.1⟩, fun hand => hsql ⟨hand.1, hand.2.1⟩⟩
          rw [if_neg fun hand => hchacha ⟨hand.1, hand.2.1⟩,
            if_neg fun hand => hsql ⟨hand.1, hand.2.1⟩,
            if_neg fun hand => hchacha ⟨hand.1, hand.2.1⟩,
            if_neg fun hand => hsql ⟨hand.1, hand.2.1⟩, Option.some_inj]
          exact ⟨fun heq _ => heq, fun heq => heq hcounts⟩
  rw [funext_iff]
  exact forall_congr' hpoint

/-- The rekey statements leave the entry as the old configuration's key statements left it. -/
def Unset (c : MCCipherConfig) (q : CipherParam) : Prop :=
  q.pragma.bind (c.emitted false) = none ∧
    (c.cipher = .sqlcipher → Parameters.versionParams c.legacy.toInt q = none)

/-- A parameter settles to nothing exactly when it is unset. -/
theorem EncryptionConfig.settle_eq_none_iff (c : EncryptionConfig) (q : CipherParam) :
    settle c.cipherConfig.cipher (c.emitted false) q = none ↔ Unset c.cipherConfig q := by
  have hbind : q.pragma.bind (c.emitted false) = q.pragma.bind (c.cipherConfig.emitted false) := by
    cases hpragma : q.pragma with
    | none => rfl
    | some p => exact emitted_of_param ((q.pragma_eq_some_iff p).mp hpragma) c false
  rw [settle, c.emitted_legacy, hbind, Unset, Option.or_eq_none_iff, Option.map_eq_none_iff,
    Option.bind_some]
  by_cases hsql : c.cipherConfig.cipher = .sqlcipher <;> simp [hsql]

/-- A migration uses the parameters of the current configuration just when each entry that
counts and is left alone has its built-in default. -/
theorem EncryptionConfig.migrationUsesParams_iff {old current : EncryptionConfig}
    (hold : old.Built) (hcurrent : current.Built) {key rekey : Key}
    (hkey : old.cipherConfig.cipher.accepts key = true)
    (hrekey : current.cipherConfig.cipher.accepts rekey = true) :
    MigrationUsesParams old current key rekey ↔
      ∀ q, (bounds current.cipherConfig.cipher q).isSome = true →
        Counts current.cipherConfig.cipher current.cipherConfig.legacy.toInt q →
        Unset current.cipherConfig q →
        old.leftover current.cipherConfig.cipher q = builtin current.cipherConfig.cipher q := by
  obtain ⟨value, hmigrated⟩ := rekeyTables_eq hkey hrekey
  have halone := current.keyTables_eq false hrekey
  -- the value of each entry, at the rekey and in a connection of its own
  have hvalue := fun q hq => migrated_value hold hcurrent value (q := q) hq
  have hown : ∀ q, (bounds current.cipherConfig.cipher q).isSome = true →
      ((current.configured false).table current.cipherConfig.cipher q).value =
        (settle current.cipherConfig.cipher (current.emitted false) q).getD
          (builtin current.cipherConfig.cipher q) := by
    intro q hq
    rw [configured_table hcurrent false hq, current.settle_emitted]
  have hlegacy : (bounds current.cipherConfig.cipher .legacy).isSome = true →
      ((migrated old current value).table current.cipherConfig.cipher .legacy).value =
        current.cipherConfig.legacy.toInt := by
    intro hb
    rw [hvalue .legacy hb, settle]
    show (((current.emitted false .legacy).map Int32.toInt).or _).getD _ = _
    rw [current.emitted_legacy]
    rfl
  have hlegacy' := configured_legacy hcurrent false
  have hcodec : MigrationUsesParams old current key rekey ↔
      (migrated old current value).inForce current.cipherConfig.cipher =
        (current.configured false).inForce current.cipherConfig.cipher := by
    unfold MigrationUsesParams
    rw [hmigrated, halone]
    constructor
    · rintro ⟨t, t0, ht, ht0, heq⟩
      cases ht
      cases ht0
      have hparam := congrArg CodecCipher.param heq
      simp only [Parameters.codec, migrated_cipher, (current.configured_cipher false).1] at hparam
      exact hparam
    · intro heq
      refine ⟨_, _, rfl, rfl, ?_⟩
      simp only [Parameters.codec, migrated_cipher, (current.configured_cipher false).1, heq]
  rw [hcodec, inForce_eq_iff hlegacy hlegacy']
  refine forall_congr' fun q => forall_congr' fun hq => forall_congr' fun _ => ?_
  rw [hvalue q hq, hown q hq, ← current.settle_eq_none_iff]
  cases settle current.cipherConfig.cipher (current.emitted false) q with
  | none => simp
  | some n => simp

/-! ## In terms of the configurations -/

/-- The parameter of a pragma is set neither by a statement of its own nor by the legacy
level: the field is null or the preset's, and no version of SQLCipher covers it. -/
structure MCCipherConfig.LeavesAlone (c : MCCipherConfig) (p : MCPragma) (q : CipherParam) :
    Prop where
  ne_legacy : p ≠ .legacy
  preset : ∀ n, c.field p = some n → c.preset.field p = some n
  version : c.cipher = .sqlcipher → Parameters.versionParams c.legacy.toInt q = none

/-- Where both configurations have one cipher, each parameter that it has and looks at and
that `current` leaves alone has its built-in default in `old`, or none. The iterations of
SQLeet are fixed and count as left alone. -/
def MigrationKeepsParams (old current : MCCipherConfig) : Prop :=
  old.cipher = current.cipher → ∀ p q, p.param = some q →
    (bounds current.cipher q).isSome = true → Counts current.cipher current.legacy.toInt q →
    current.LeavesAlone p q →
    ∀ n, old.field p = some n →
      n.toInt = builtin current.cipher q ∨ (old.FixedKdfIter p ∧ n = 12345)

/-- A parameter left alone gets no statement. -/
theorem MCCipherConfig.emitted_eq_none_iff {c : MCCipherConfig} {p : MCPragma} {q : CipherParam}
    (hparam : p.param = some q) (hbounds : (bounds c.cipher q).isSome = true) :
    c.emitted false p = none ↔
      p ≠ .legacy ∧ ∀ n, c.field p = some n → c.preset.field p = some n := by
  constructor
  · intro hnone
    have hlegacy : p ≠ .legacy := by
      rintro rfl
      rw [emitted, if_pos rfl] at hnone
      cases c <;> cases hnone
    exact ⟨hlegacy, fun n hfield =>
      (preset_field_of_emitted_eq_none hparam hbounds hfield hnone).2⟩
  · rintro ⟨hlegacy, hpreset⟩
    rw [emitted, if_neg hlegacy]
    -- the page size of Ascon, what differs from the preset, and the rest
    split_ifs with hascon hdiffers
    · rfl
    · -- what differs from the preset is null
      have hne : c.field p ≠ c.preset.field p := by simpa using hdiffers
      cases hfield : c.field p with
      | none => rfl
      | some n => exact absurd (hfield.trans (hpreset n hfield).symm) hne
    · rfl

/-- A parameter is unset exactly when the configuration leaves its pragma alone. -/
theorem MCCipherConfig.unset_iff {c : MCCipherConfig} {p : MCPragma} {q : CipherParam}
    (hparam : p.param = some q) (hbounds : (bounds c.cipher q).isSome = true) :
    Unset c q ↔ c.LeavesAlone p q := by
  have hpragma : q.pragma = some p := (q.pragma_eq_some_iff p).mpr hparam
  rw [Unset, hpragma, Option.bind_some, emitted_eq_none_iff hparam hbounds]
  exact ⟨fun h => ⟨h.1.1, h.1.2, h.2⟩, fun h => ⟨⟨h.ne_legacy, h.preset⟩, h.version⟩⟩

/-- The parameters that a SQLCipher version covers are never null. -/
theorem MCCipherConfig.versionParams_of_field_eq_none {c : MCCipherConfig}
    (hsql : c.cipher = .sqlcipher) {p : MCPragma} {q : CipherParam} (hparam : p.param = some q)
    (hfield : c.field p = none) (version : Int) : Parameters.versionParams version q = none := by
  cases c with
  | sqlCipher c =>
    refine Parameters.versionParams_of_not_mem ?_ version
    cases p <;> first | (cases hparam; done) | cases hfield | (cases hparam; decide)
  | _ => cases hsql

/-- In legacy mode the iterations are compared with those of sqleet. -/
theorem MCCipherConfig.emitted_kdfIter_of_legacy {c : MCCipherConfig} (hchacha : c.cipher = .chacha20)
    (hone : c.legacy = 1) {n : Int32} (hfield : c.field .kdfIter = some n) :
    c.emitted false .kdfIter = if n = 12345 then none else some n := by
  cases c with
  | chaCha20 c =>
    cases hfield
    have hpreset : (chaCha20 c).preset = chaCha20 MCChaCha20Config.SQLeet := by
      have hzero : c.legacy ≠ 0 := fun h => absurd (h.symm.trans hone) (by decide)
      rw [preset, MCChaCha20Config.preset, if_neg hzero]
    have hsqleet : MCChaCha20Config.SQLeet.kdfIter = 12345 := rfl
    simp [emitted, hpreset, field, hsqleet, MCCipherConfig.cipher]
  | _ => cases hchacha

/-- What an old configuration leaves behind for a parameter of its cipher. -/
theorem EncryptionConfig.leftover_eq_builtin_iff {old : EncryptionConfig} (hold : old.Built)
    {p : MCPragma} {q : CipherParam} (hparam : p.param = some q)
    (hbounds : (bounds old.cipherConfig.cipher q).isSome = true) :
    old.leftover old.cipherConfig.cipher q = builtin old.cipherConfig.cipher q ↔
      ∀ n, old.cipherConfig.field p = some n →
        n.toInt = builtin old.cipherConfig.cipher q ∨
          (old.cipherConfig.FixedKdfIter p ∧ n = 12345) := by
  have hpragma : q.pragma = some p := (q.pragma_eq_some_iff p).mpr hparam
  rw [leftover, if_pos rfl, hpragma, Option.bind_some]
  cases hfield : old.cipherConfig.field p with
  | none =>
    rw [MCCipherConfig.emitted_of_field_eq_none hfield, ownValue]
    -- a null field of SQLCipher is one that its version does not set
    by_cases hsql : old.cipherConfig.cipher = .sqlcipher
    · rw [if_pos hsql, MCCipherConfig.versionParams_of_field_eq_none hsql hparam hfield]
      simp
    · rw [if_neg hsql]
      simp
  | some n =>
    by_cases hfixed : old.cipherConfig.FixedKdfIter p
    · -- the preset of the legacy mode has the iterations of sqleet, the table has its default
      obtain ⟨hchacha, hone, rfl⟩ := id hfixed
      cases hparam
      have hemitted : old.cipherConfig.emitted false .kdfIter =
          if n = 12345 then none else some n :=
        MCCipherConfig.emitted_kdfIter_of_legacy hchacha hone hfield
      rw [hemitted, ownValue, hchacha]
      by_cases hn : n = 12345
      · rw [if_pos hn]
        simp [hn, hfixed]
      · rw [if_neg hn]
        simp [hn]
    · have hvalue := settled_field hold false hparam hbounds hfield hfixed
      rw [old.settle_emitted, hpragma, Option.bind_some, emitted_of_param hparam] at hvalue
      rw [hvalue]
      simp [hfixed]

/-- The rekey of a migration uses the cipher and the parameters of the current configuration
exactly if `MigrationKeepsParams` holds. -/
theorem migrationUsesParams_iff (old current : BuiltEncryptionConfig) {key rekey : Key}
    (hkey : old.1.cipherConfig.cipher.accepts key = true)
    (hrekey : current.1.cipherConfig.cipher.accepts rekey = true) :
    MigrationUsesParams old.1 current.1 key rekey ↔
      MigrationKeepsParams old.1.cipherConfig current.1.cipherConfig := by
  rw [EncryptionConfig.migrationUsesParams_iff old.2 current.2 hkey hrekey]
  unfold MigrationKeepsParams
  by_cases hcipher : old.1.cipherConfig.cipher = current.1.cipherConfig.cipher
  · constructor
    · intro h _ p q hparam hbounds hcounts halone
      rw [← hcipher] at hbounds ⊢
      rw [← EncryptionConfig.leftover_eq_builtin_iff old.2 hparam hbounds, hcipher]
      rw [hcipher] at hbounds
      exact h q hbounds hcounts ((MCCipherConfig.unset_iff hparam hbounds).mpr halone)
    · intro h q hbounds hcounts hunset
      cases hpragma : q.pragma with
      | none =>
        -- no pragma names the entry, and no version of SQLCipher covers it
        have hq : q = .hmacAlgorithmCompat := by cases q <;> first | rfl | cases hpragma
        have hversion := Parameters.versionParams_of_not_mem
          (q := q) (by rw [hq]; decide) old.1.cipherConfig.legacy.toInt
        rw [EncryptionConfig.leftover, if_pos hcipher, hpragma, ownValue, hversion, ite_self,
          hcipher]
        rfl
      | some p =>
        have hparam : p.param = some q := (q.pragma_eq_some_iff p).mp hpragma
        have hall := h hcipher p q hparam hbounds hcounts
          ((MCCipherConfig.unset_iff hparam hbounds).mp hunset)
        rw [← hcipher] at hbounds hall ⊢
        exact (EncryptionConfig.leftover_eq_builtin_iff old.2 hparam hbounds).mpr hall
  · -- the current cipher's entries are those of a new connection
    refine ⟨fun _ h => absurd h hcipher, fun _ q _ _ _ => ?_⟩
    rw [EncryptionConfig.leftover, if_neg hcipher]

/-! ## The file -/

/-- The cipher that `m_allocateCipher` makes of a configuration's parameters. -/
def MCCipherConfig.pageCipher (c : MCCipherConfig) : Option Native.PageCipher :=
  Native.PageCipher.allocate ⟨c.cipher, c.codecParam⟩

/-- A parameter that the configuration has a field for, outside of the fixed ones. -/
theorem MCCipherConfig.codecParam_of_field {c : MCCipherConfig} {p : MCPragma} {q : CipherParam}
    {n : Int32} (hparam : p.param = some q) (hfield : c.field p = some n)
    (hbounds : (bounds c.cipher q).isSome = true)
    (hcounts : Counts c.cipher c.legacy.toInt q) : c.codecParam q = some n.toInt := by
  obtain ⟨b, hb⟩ := Option.isSome_iff_exists.mp hbounds
  have hpragma : q.pragma = some p := (q.pragma_eq_some_iff p).mpr hparam
  rw [codecParam, hb]
  dsimp only
  rw [if_neg hcounts.1, if_neg hcounts.2, wanted, hpragma, Option.bind_some, hfield]
  rfl

/-- The header size that SQLCipher is given, as far as its version knows one. -/
theorem MCCipherConfig.headerSize_sqlCipher {c : MCSqlCipherConfig} (hvalid : c.Valid) :
    let size := Native.parameter ⟨.sqlcipher, (sqlCipher c).codecParam⟩ .plaintextHeaderSize
    size ≤ 100 ∧ size % 16 = 0 ∧
      (0 < size → 4 ≤ Native.parameter ⟨.sqlcipher, (sqlCipher c).codecParam⟩ .legacy) := by
  intro size
  have hlegacy := Native.parameter_eq (c := ⟨.sqlcipher, (sqlCipher c).codecParam⟩)
    (codecParam_of_field (c := sqlCipher c) (p := .legacy) rfl rfl rfl ⟨by simp, by simp⟩)
  -- before version 4 there is no plain header, whatever the field says
  by_cases hversion : c.legacy.toInt < 4
  · have hsize : (sqlCipher c).codecParam .plaintextHeaderSize = some 0 := by
      unfold codecParam
      exact (if_neg (by simp)).trans (if_pos ⟨rfl, rfl, hversion⟩)
    have hzero : size = (0 : Int).toNat :=
      Native.parameter_eq (c := ⟨.sqlcipher, (sqlCipher c).codecParam⟩) hsize
    omega
  · -- from version 4 on the field is not null
    obtain ⟨v, hv⟩ : ∃ v, c.plaintextHeaderSize = some v := by
      cases hnone : c.plaintextHeaderSize with
      | some v => exact ⟨v, rfl⟩
      | none =>
        have h3 := (hvalid.plaintextHeaderSize_null.mp hnone).2
        rw [Int32.le_iff_toInt_le] at h3
        exact absurd h3 (by rw [show (3 : Int32).toInt = 3 from rfl]; omega)
    have hsize : size = v.toInt.toNat :=
      Native.parameter_eq (c := ⟨.sqlcipher, (sqlCipher c).codecParam⟩)
        (codecParam_of_field (c := sqlCipher c) (p := .plainTextHeaderSize) rfl hv rfl
          ⟨by simp, fun h => hversion h.2.2⟩)
    obtain ⟨h0, h96, h16⟩ := hvalid.plaintextHeaderSize v hv
    omega

/-- Every configuration has a cipher. -/
theorem MCCipherConfig.exists_pageCipher {c : MCCipherConfig} (hbuilt : c.Built) :
    ∃ own, c.pageCipher = some own ∧ own.Configured := by
  have hvalid := valid_of_built hbuilt
  -- only SQLCipher has bounds to check; the others are allocated in every mode
  cases c with
  | wxAES128 c => exact ⟨_, rfl, trivial⟩
  | wxAES256 c => exact ⟨_, rfl, trivial⟩
  | rc4 c => exact ⟨_, rfl, trivial⟩
  | chaCha20 c => exact ⟨_, rfl, rfl⟩
  | ascon128 c => exact ⟨_, rfl, rfl⟩
  | sqlCipher c =>
    obtain ⟨h100, h16, hversion⟩ := headerSize_sqlCipher (c := c) hvalid
    have huse : Native.parameter ⟨.sqlcipher, (sqlCipher c).codecParam⟩ .hmacUse ≤ 1 := by
      rw [Native.parameter_eq (c := ⟨.sqlcipher, (sqlCipher c).codecParam⟩) (codecParam_of_field
        (c := sqlCipher c) (p := .hmacUse) rfl rfl rfl ⟨by simp, by simp⟩)]
      cases c.hmacUse <;> decide
    exact ⟨_, dif_pos ⟨h100, hversion⟩, h16, huse⟩

/-- The connection of a migration when `PRAGMA rekey` executes: how the platform writes half of a
surrogate pair, the codec, the pages of the database, and which size a new connection takes them to
have when neither the cipher nor the file says it. -/
structure MigrationConnection where
  unpaired : List Octet
  codec : Option Native.Codec
  pageSize : Nat
  nReserved : Nat
  guess : Nat
  unpaired_ne : unpaired ≠ []
  isPageSize : Native.PageSize pageSize
  atRest : Native.Codec.AllAtRest codec
  reserved : ∀ c, codec = some c → c.reserved = nReserved

/-- The file is re-encrypted with the cipher and the parameters that the key statements of
`current` alone set up on a new connection, and can be opened with them. -/
def MigrationReencrypts (old current : EncryptionConfig) (key rekey : Key)
    (conn : MigrationConnection) : Prop :=
  ∃ t t0 password, rekeyTables old current key rekey = .ok t ∧
    current.keyTables false rekey = .ok t0 ∧ t.codec.cipher = t0.codec.cipher ∧
    (key.password conn.unpaired old.cipherConfig.cipher).isSome = true ∧
    rekey.password conn.unpaired current.cipherConfig.cipher = some password ∧
    Native.Codec.Reopens t.codec t0.codec conn.codec conn.pageSize conn.nReserved
      conn.guess password

/-- Who opens the file with the configuration and the key finds its page size and its salt. -/
def EncryptionConfig.Finds (c : EncryptionConfig) (key : Key) (conn : MigrationConnection) : Prop :=
  ∃ own, c.cipherConfig.pageCipher = some own ∧
    ∀ password, key.password conn.unpaired c.cipherConfig.cipher = some password →
      Native.Found own c.hmacCheck.toNat conn.pageSize conn.guess password

/-- `sqlCipher { v3() }`. -/
def sqlCipherV3 : BuiltEncryptionConfig where
  val := { cipherConfig := .sqlCipher MCSqlCipherConfig.v3, hmacCheck := true, mcLegacyWAL := false }
  property := EncryptionConfig.Builder.built_start_sqlCipher .v3

/-- `sqlCipher { default { kdfIter(500_000) } }`. -/
def sqlCipherKdf500000 : BuiltEncryptionConfig where
  val :=
    { cipherConfig := .sqlCipher
        (MCSqlCipherConfig.dsl.build (runCalls MCSqlCipherConfig.Builder.call
          (MCSqlCipherConfig.Builder.new (some MCSqlCipherConfig.Default)) [.kdfIter 500000]))
      hmacCheck := true
      mcLegacyWAL := false }
  property := .inherit (D := MCSqlCipherConfig.dsl)
    (EncryptionConfig.Builder.built_start_sqlCipher .default) [.kdfIter 500000]

example : EncryptionConfig.newOrNull none
    ⟨[.sqlCipherOptions ⟨[(.default, ⟨[.kdfIter 500000], none⟩)], none⟩], none⟩ =
      .ok (some sqlCipherKdf500000.1) := rfl

/-- A connection to a database of SQLCipher v3 with pages of 1024 bytes. -/
def sqlCipherV3Connection : MigrationConnection where
  unpaired := [0x3F]
  codec := some (Native.Codec.attach 1024 1 0 (.sqlcipher
    { legacy := 3, legacyPageSize := 1024, kdfIter := 64000, fastKdfIter := 2, hmacUse := 1,
      hmacPgno := 1, hmacSaltMask := 0x3a, kdfAlgorithm := 0, hmacAlgorithm := 0,
      hmacAlgorithmCompat := 1, plaintextHeaderSize := 0, key := Buffer.zeros 32,
      salt := Buffer.zeros 16, hmacKey := Buffer.zeros 32, length_salt := rfl,
      plaintextHeaderSize_le := Nat.zero_le 100, legacy_of_plaintextHeader := by decide }))
  pageSize := 1024
  nReserved := 48
  guess := 4096
  unpaired_ne := List.cons_ne_nil _ _
  isPageSize := ⟨10, by decide, by decide, rfl⟩
  atRest := by
    rintro c ⟨⟩
    exact (Native.Codec.attach_spec (by decide)).1
  reserved := by
    rintro c ⟨⟩
    rfl

end SqliteMc
