import SqliteMc.Results.Tables

/-!
# The key statements say what the configuration says

The statements generated for a configuration and a key, run on a new connection, leave the
tables as the configuration's fields have them when `PRAGMA key` executes. It makes no
difference whether the fields equal to the preset were left out: what is omitted is what
SQLite3MC has by itself, or what the legacy level sets (`preset_settled`).

The one entry that can differ is `kdf_iter` of ChaCha20 in legacy mode, which the cipher
does not look at.
-/

namespace SqliteMc

open Engine

/-- The tables when the first `PRAGMA key` of the statements executes. -/
def Engine.tablesAtKey (t : Parameters) (sts : List Statement) : Parameters :=
  run t (sts.takeWhile fun s => !s.isKey)

/-- The tables of a new connection when the key statements of a configuration come to their
`PRAGMA key`. -/
def EncryptionConfig.keyTables (c : EncryptionConfig) (addAll : Bool) (key : Key) :
    Except Throwable Parameters := do
  let m ← c.pragmas addAll key false
  let sts ← m.toMCSQLStatements
  return tablesAtKey Parameters.new sts

/-- `kdf_iter` in the legacy mode of ChaCha20, where the cipher uses a fixed count. -/
def MCCipherConfig.FixedKdfIter (c : MCCipherConfig) (p : MCPragma) : Prop :=
  c.cipher = .chacha20 ∧ c.legacy = 1 ∧ p = .kdfIter

/-- The tables hold what the fields of the configuration say. -/
structure EncryptionConfig.Faithful (c : EncryptionConfig) (t : Parameters) : Prop where
  cipher : t.cipher = c.cipherConfig.cipher
  hmacCheck : t.hmacCheck.value = (boolInt c.hmacCheck).toInt
  mcLegacyWal : t.mcLegacyWal.value = (boolInt c.mcLegacyWAL).toInt
  param : ∀ p q n, p.param = some q → (bounds t.cipher q).isSome = true →
    c.cipherConfig.field p = some n → ¬ c.cipherConfig.FixedKdfIter p →
    (t.table t.cipher q).value = n.toInt

/-! ## The presets -/

/-- The versions up to 1. -/
theorem legacy_cases_one {l : Int32} (h : LegacyUpTo 1 l) : l = 0 ∨ l = 1 := by
  obtain ⟨h0, h1⟩ := h
  rw [← Int32.toInt_inj, ← Int32.toInt_inj, show (0 : Int32).toInt = 0 by decide,
    show (1 : Int32).toInt = 1 by decide]
  omega

/-- The versions up to 4. -/
theorem legacy_cases_four {l : Int32} (h : LegacyUpTo 4 l) :
    l = 0 ∨ l = 1 ∨ l = 2 ∨ l = 3 ∨ l = 4 := by
  obtain ⟨h0, h1⟩ := h
  simp only [← Int32.toInt_inj, show (0 : Int32).toInt = 0 by decide,
    show (1 : Int32).toInt = 1 by decide, show (2 : Int32).toInt = 2 by decide,
    show (3 : Int32).toInt = 3 by decide, show (4 : Int32).toInt = 4 by decide]
  omega

/-- What SQLite3MC has by itself for a cipher: the value that the legacy level sets, else
the built-in default. -/
def ownValue (c : MCCipherConfig) (q : CipherParam) : Int :=
  (if c.cipher = .sqlcipher then Parameters.versionParams c.legacy.toInt q else none).getD
    (builtin c.cipher q)

/-- The presets are what SQLite3MC has by itself. -/
theorem preset_settled {c : MCCipherConfig} (hvalid : c.Valid) {p : MCPragma} {q : CipherParam}
    {n : Int32} (hparam : p.param = some q) (hbounds : (bounds c.cipher q).isSome = true)
    (hfield : c.preset.field p = some n) (hlegacy : p ≠ .legacy) (hfixed : ¬ c.FixedKdfIter p) :
    ownValue c q = n.toInt := by
  cases c with
  | chaCha20 c =>
    obtain ⟨hl, -, -⟩ : c.Valid := hvalid
    -- the preset is that of the legacy level
    rcases legacy_cases_one hl with h | h
    · simp only [MCCipherConfig.preset, MCChaCha20Config.preset, h, if_true] at hfield
      cases p <;> first | exact absurd rfl hlegacy | (cases hparam; cases hfield; rfl) | cases hfield
    · simp only [MCCipherConfig.preset, MCChaCha20Config.preset, h] at hfield
      cases p <;> first
        | exact absurd rfl hlegacy
        | exact absurd ⟨rfl, h, rfl⟩ hfixed
        | (cases hparam; cases hfield; rfl)
        | cases hfield
  | rc4 c =>
    cases p <;> first | exact absurd rfl hlegacy | (cases hparam; cases hfield; rfl) | cases hfield
  | wxAES128 c =>
    cases p <;> first | exact absurd rfl hlegacy | (cases hparam; cases hfield; rfl) | cases hfield
  | wxAES256 c =>
    cases p <;> first | exact absurd rfl hlegacy | (cases hparam; cases hfield; rfl) | cases hfield
  -- the page size has no entry in the table of the cipher
  | ascon128 c =>
    cases p <;> first
      | exact absurd rfl hlegacy
      | (cases hparam; cases hbounds; done)
      | (cases hparam; cases hfield; rfl)
      | cases hfield
  | sqlCipher c =>
    obtain ⟨hl, -⟩ : c.Valid := hvalid
    -- the legacy pragma writes the values of a version over the defaults
    have hown : ∀ l : Int32, c.legacy = l →
        ownValue (.sqlCipher c) q = (Parameters.versionParams l.toInt q).getD (builtin .sqlcipher q) := by
      rintro l rfl
      rfl
    rcases legacy_cases_four hl with h | h | h | h | h <;>
      rw [hown _ h] <;>
      simp only [MCCipherConfig.preset, MCSqlCipherConfig.preset, h] at hfield <;>
      cases p <;> first
        | exact absurd rfl hlegacy
        | (cases hparam; cases hfield; rfl)
        | cases hfield

/-! ## The tables -/

/-- The version is always emitted. -/
theorem EncryptionConfig.emitted_legacy (c : EncryptionConfig) (addAll : Bool) :
    c.emitted addAll .legacy = some c.cipherConfig.legacy := by
  show c.cipherConfig.emitted addAll .legacy = _
  rw [MCCipherConfig.emitted, if_pos rfl]
  cases c.cipherConfig <;> rfl

/-- What an entry of a new connection is settled to: the integer its pragma is given, else
what SQLite3MC has by itself. -/
theorem EncryptionConfig.settle_emitted (c : EncryptionConfig) (addAll : Bool) (q : CipherParam) :
    (settle c.cipherConfig.cipher (c.emitted addAll) q).getD (builtin c.cipherConfig.cipher q) =
      ((q.pragma.bind (c.emitted addAll)).map Int32.toInt).getD (ownValue c.cipherConfig q) := by
  rw [settle, c.emitted_legacy addAll, ownValue, Option.bind_some]
  cases (q.pragma.bind (c.emitted addAll)).map Int32.toInt with
  | none => rw [Option.none_or, Option.getD_none]
  | some n => rfl

/-- An omitted field is that of the preset. -/
theorem MCCipherConfig.preset_field_of_emitted_eq_none {c : MCCipherConfig} {addAll : Bool}
    {p : MCPragma} {q : CipherParam} {n : Int32} (hparam : p.param = some q)
    (hbounds : (bounds c.cipher q).isSome = true) (hfield : c.field p = some n)
    (h : c.emitted addAll p = none) : p ≠ .legacy ∧ c.preset.field p = some n := by
  unfold emitted at h
  split_ifs at h with h1 h2 h3
  · rw [hfield] at h
    cases h
  -- the page size of Ascon, which has no entry
  · obtain ⟨hcipher, rfl⟩ := h2
    cases hparam
    rw [hcipher] at hbounds
    cases hbounds
  · rw [hfield] at h
    cases h
  · refine ⟨h1, ?_⟩
    rw [not_or, not_not] at h3
    rw [← h3.2, hfield]

/-- A non-null field ends up in its entry, emitted or not. -/
theorem EncryptionConfig.settled_field {c : EncryptionConfig} (hbuilt : c.Built) (addAll : Bool)
    {p : MCPragma} {q : CipherParam} {n : Int32} (hparam : p.param = some q)
    (hbounds : (bounds c.cipherConfig.cipher q).isSome = true)
    (hfield : c.cipherConfig.field p = some n) (hfixed : ¬ c.cipherConfig.FixedKdfIter p) :
    (settle c.cipherConfig.cipher (c.emitted addAll) q).getD (builtin c.cipherConfig.cipher q) =
      n.toInt := by
  have hpragma : q.pragma = some p := (q.pragma_eq_some_iff p).mpr hparam
  rw [c.settle_emitted, hpragma, Option.bind_some, emitted_of_param hparam]
  -- a field that is not emitted is the preset, which the engine has by itself
  cases hem : c.cipherConfig.emitted addAll p with
  | some n' =>
    have hn := MCCipherConfig.emitted_eq_some hem
    rw [hfield, Option.some_inj] at hn
    rw [hn]
    rfl
  | none =>
    obtain ⟨hlegacy, hpreset⟩ :=
      MCCipherConfig.preset_field_of_emitted_eq_none hparam hbounds hfield hem
    exact preset_settled (MCCipherConfig.valid_of_built hbuilt) hparam hbounds hpreset hlegacy
      hfixed

/-- The tables of a new connection after the configuration statements. -/
def EncryptionConfig.configured (c : EncryptionConfig) (addAll : Bool) : Parameters :=
  run Parameters.new (c.configStatements addAll .main)

/-- Selecting a cipher by name for the main database makes it the default as well. -/
theorem selectCipher_name (t : Parameters) (schema : Schema) (c : Cipher) :
    t.selectCipher schema c.name =
      { t with
        cipherDefault := if schema = .main then c else t.cipherDefault
        cipher := c } := by
  rw [Parameters.selectCipher, Cipher.valueOfOrNull_name]
  cases schema <;> rfl

/-- The settings behind the statements are the pragmas run on the new parameters of the cipher. -/
theorem EncryptionConfig.configured_eq (c : EncryptionConfig) (addAll : Bool) :
    c.configured addAll = Parameters.configPragmas .main (c.emitted addAll)
      (Parameters.new.selectCipher .main c.cipherConfig.cipher.name) :=
  c.run_configStatements addAll .main Parameters.new

/-- The statements select the cipher of the configuration. -/
theorem EncryptionConfig.configured_cipher (c : EncryptionConfig) (addAll : Bool) :
    (c.configured addAll).cipher = c.cipherConfig.cipher ∧
      (c.configured addAll).cipherDefault = c.cipherConfig.cipher := by
  rw [configured_eq]
  obtain ⟨h1, h2⟩ := Parameters.configPragmas_cipher .main (c.emitted addAll)
    (Parameters.new.selectCipher .main c.cipherConfig.cipher.name)
  rw [h1, h2, selectCipher_name]
  exact ⟨rfl, rfl⟩

/-- Default and value of each entry of the selected cipher are what it was settled to. -/
theorem EncryptionConfig.configured_table {c : EncryptionConfig} (hbuilt : c.Built) (addAll : Bool)
    {q : CipherParam} (hbounds : (bounds c.cipherConfig.cipher q).isSome = true) :
    (c.configured addAll).table c.cipherConfig.cipher q =
      ⟨((q.pragma.bind (c.emitted addAll)).map Int32.toInt).getD (ownValue c.cipherConfig q),
        ((q.pragma.bind (c.emitted addAll)).map Int32.toInt).getD (ownValue c.cipherConfig q)⟩ := by
  have hcipher : (Parameters.new.selectCipher .main c.cipherConfig.cipher.name).cipher =
      c.cipherConfig.cipher := by
    rw [selectCipher_name]
  have hvalue := c.settle_emitted addAll q
  rw [configured_eq, Parameters.table_configPragmas hcipher .main (takes_emitted hbuilt addAll)
    hbounds, selectCipher_name]
  rw [← hvalue]
  cases settle c.cipherConfig.cipher (c.emitted addAll) q <;> rfl

/-- The tables of the other ciphers are as in a new connection. -/
theorem EncryptionConfig.configured_table_of_ne (c : EncryptionConfig) (addAll : Bool)
    {k : Cipher} (h : c.cipherConfig.cipher ≠ k) (q : CipherParam) :
    (c.configured addAll).table k q = ⟨builtin k q, builtin k q⟩ := by
  have hcipher : (Parameters.new.selectCipher .main c.cipherConfig.cipher.name).cipher ≠ k := by
    rw [selectCipher_name]
    exact h
  rw [configured_eq, Parameters.table_configPragmas_of_ne hcipher, selectCipher_name]
  rfl

/-- The settings behind the statements are those of the configuration. -/
theorem EncryptionConfig.faithful_configured {c : EncryptionConfig} (hbuilt : c.Built)
    (addAll : Bool) : c.Faithful (c.configured addAll) := by
  obtain ⟨hcipher, -⟩ := c.configured_cipher addAll
  obtain ⟨hcheck, hwal⟩ := Parameters.switches_configPragmas .main (c.emitted addAll)
    (Parameters.new.selectCipher .main c.cipherConfig.cipher.name)
  rw [← configured_eq] at hcheck hwal
  exact {
    cipher := hcipher
    -- a switch that is not emitted has the value it starts with
    hmacCheck := by
      rw [hcheck, selectCipher_name, emitted]
      cases c.hmacCheck <;> cases addAll <;> rfl
    mcLegacyWal := by
      rw [hwal, selectCipher_name, emitted]
      cases c.mcLegacyWAL <;> cases addAll <;> rfl
    param := by
      intro p q n hparam hbounds hfield hfixed
      rw [hcipher] at hbounds ⊢
      rw [configured_table hbuilt addAll hbounds, ← c.settle_emitted addAll q]
      exact settled_field hbuilt addAll hparam hbounds hfield hfixed }

/-! ## The codec -/

/-- The value a configuration stands for: its field, or what SQLite3MC has by itself where
the field is null or there is none. -/
def MCCipherConfig.wanted (c : MCCipherConfig) (q : CipherParam) : Int :=
  ((q.pragma.bind c.field).map Int32.toInt).getD (ownValue c q)

/-- The parameters of the codec a configuration stands for. -/
def MCCipherConfig.codecParam (c : MCCipherConfig) (q : CipherParam) : Option Int :=
  match bounds c.cipher q with
  | none => none
  | some _ =>
    if c.cipher = .chacha20 ∧ q = .kdfIter ∧ c.legacy.toInt ≠ 0 then some 12345
    else if c.cipher = .sqlcipher ∧ q = .plaintextHeaderSize ∧ c.legacy.toInt < 4 then some 0
    else some (c.wanted q)

/-- A parameter that the source does not fix has the value of the configuration. -/
theorem EncryptionConfig.configured_value {c : EncryptionConfig} (hbuilt : c.Built) (addAll : Bool)
    {q : CipherParam} (hbounds : (bounds c.cipherConfig.cipher q).isSome = true)
    (hfixed : ∀ p, q.pragma = some p → ¬ c.cipherConfig.FixedKdfIter p) :
    ((c.configured addAll).table c.cipherConfig.cipher q).value = c.cipherConfig.wanted q := by
  rw [configured_table hbuilt addAll hbounds, MCCipherConfig.wanted]
  -- a parameter without a pragma keeps its default
  cases hpragma : q.pragma with
  | none => rfl
  | some p =>
    have hparam : p.param = some q := (q.pragma_eq_some_iff p).mp hpragma
    cases hfield : c.cipherConfig.field p with
    | none =>
      rw [Option.bind_some, Option.bind_some, emitted_of_param hparam,
        MCCipherConfig.emitted_of_field_eq_none hfield, hfield]
    | some n =>
      have h := settled_field hbuilt addAll hparam hbounds hfield (hfixed p hpragma)
      rw [c.settle_emitted, hpragma] at h
      rw [h, Option.bind_some, hfield]
      rfl

/-- The legacy level is in force for every cipher that has one. -/
theorem EncryptionConfig.configured_legacy {c : EncryptionConfig} (hbuilt : c.Built)
    (addAll : Bool) (hbounds : (bounds c.cipherConfig.cipher .legacy).isSome = true) :
    ((c.configured addAll).table c.cipherConfig.cipher .legacy).value =
      c.cipherConfig.legacy.toInt := by
  rw [configured_table hbuilt addAll hbounds]
  show ((c.emitted addAll .legacy).map Int32.toInt).getD _ = _
  rw [c.emitted_legacy]
  rfl

/-- The codec has the parameters the configuration stands for, whatever was left out. -/
theorem EncryptionConfig.inForce_configured {c : EncryptionConfig} (hbuilt : c.Built)
    (addAll : Bool) (q : CipherParam) :
    (c.configured addAll).inForce c.cipherConfig.cipher q = c.cipherConfig.codecParam q := by
  unfold Parameters.inForce MCCipherConfig.codecParam
  cases hbounds : bounds c.cipherConfig.cipher q with
  | none => rfl
  | some b =>
    have hsome : (bounds c.cipherConfig.cipher q).isSome = true := by rw [hbounds]; rfl
    have hlegacy : (bounds c.cipherConfig.cipher .legacy).isSome = true →
        ((c.configured addAll).table c.cipherConfig.cipher .legacy).value =
          c.cipherConfig.legacy.toInt := configured_legacy hbuilt addAll
    simp only
    -- ChaCha20 and SQLCipher do not use all of their entries at every legacy level
    by_cases hchacha : c.cipherConfig.cipher = .chacha20
    · have hnot : ¬ c.cipherConfig.cipher = .sqlcipher := by rw [hchacha]; decide
      have hl := hlegacy (by rw [hchacha]; rfl)
      rw [hl]
      by_cases hkdf : q = .kdfIter ∧ c.cipherConfig.legacy.toInt ≠ 0
      · rw [if_pos ⟨hchacha, hkdf⟩, if_pos ⟨hchacha, hkdf⟩]
      · -- the iterations count, so the entry holds what the configuration wants
        have hfixed : ∀ p, q.pragma = some p → ¬ c.cipherConfig.FixedKdfIter p := by
          rintro p hp ⟨-, hone, rfl⟩
          refine hkdf ⟨?_, ?_⟩
          · revert hp
            cases q <;> simp [CipherParam.pragma]
          · rw [hone]
            decide
        rw [if_neg fun h => hkdf h.2, if_neg fun h => hnot h.1, if_neg fun h => hkdf h.2,
          if_neg fun h => hnot h.1, configured_value hbuilt addAll hsome hfixed]
    · have hfixed : ∀ p, q.pragma = some p → ¬ c.cipherConfig.FixedKdfIter p :=
        fun p _ h => hchacha h.1
      rw [configured_value hbuilt addAll hsome hfixed]
      by_cases hsql : c.cipherConfig.cipher = .sqlcipher
      · rw [hlegacy (by rw [hsql]; rfl)]
      · rw [if_neg fun h => hchacha h.1, if_neg fun h => hsql h.1, if_neg fun h => hchacha h.1,
          if_neg fun h => hsql h.1]

theorem EncryptionConfig.codec_configured {c : EncryptionConfig} (hbuilt : c.Built)
    (addAll : Bool) :
    (c.configured addAll).codec =
      { hmacCheck := (boolInt c.hmacCheck).toInt
        walLegacy := (boolInt c.mcLegacyWAL).toInt
        cipher := { cipher := c.cipherConfig.cipher, param := c.cipherConfig.codecParam } } := by
  have hfaithful := faithful_configured hbuilt addAll
  -- the cipher in force is the configuration's, so its parameters are
  have hparam : (c.configured addAll).inForce (c.configured addAll).cipher =
      c.cipherConfig.codecParam := by
    funext q
    rw [hfaithful.cipher]
    exact inForce_configured hbuilt addAll q
  rw [Parameters.codec, hfaithful.hmacCheck, hfaithful.mcLegacyWal, hfaithful.cipher,
    ← hfaithful.cipher, hparam, hfaithful.cipher]

/-! ## The key statements -/

/-- In front of the key stand the settings, none of which is a key. -/
theorem EncryptionConfig.takeWhile_keyStatements (c : EncryptionConfig) (addAll : Bool)
    (value : Text) :
    (c.keyStatements addAll value).takeWhile (fun s => !s.isKey) =
      c.configStatements addAll .main := by
  have hconfig : ∀ s ∈ c.configStatements addAll .main, (!s.isKey) = true := by
    intro s hs
    rcases List.mem_cons.mp hs with rfl | hs
    · rfl
    · obtain ⟨x, -, rfl⟩ := List.mem_map.mp hs
      rfl
  rw [keyStatements, List.takeWhile_append_of_pos hconfig]
  exact List.append_nil _

/-- The key statements of an accepted key lead to the configured tables. -/
theorem EncryptionConfig.keyTables_eq (c : EncryptionConfig) (addAll : Bool) {key : Key}
    (haccepts : c.cipherConfig.cipher.accepts key = true) :
    c.keyTables addAll key = .ok (c.configured addAll) := by
  obtain ⟨m, hm⟩ := pragmas_of_accepts haccepts addAll false
  obtain ⟨value, -, hholds⟩ := pragmas_eq_ok hm
  have hsts : m.toMCSQLStatements = .ok (c.keyStatements addAll value) :=
    MCPragmas.toMCSQLStatements_of_holds hholds
  refine bind_eq_ok.mpr ⟨m, hm, bind_eq_ok.mpr ⟨_, hsts, ?_⟩⟩
  rw [tablesAtKey, c.takeWhile_keyStatements]
  rfl

/--
**Statement generation is faithful.** The key statements of a built configuration, made
with or without the fields that equal the preset, leave a new connection with the selected
cipher, the two switches and every parameter as the non-null fields say, and both ways
`PRAGMA key` sets up the same codec.
-/
theorem key_statements_faithful (c : BuiltEncryptionConfig) (key : Key)
    (haccepts : c.1.cipherConfig.cipher.accepts key = true) :
    ∃ t tAll, c.1.keyTables false key = .ok t ∧ c.1.keyTables true key = .ok tAll ∧
      c.1.Faithful t ∧ c.1.Faithful tAll ∧ t.codec = tAll.codec := by
  refine ⟨_, _, c.1.keyTables_eq false haccepts, c.1.keyTables_eq true haccepts,
    EncryptionConfig.faithful_configured c.2 false, EncryptionConfig.faithful_configured c.2 true,
    ?_⟩
  rw [EncryptionConfig.codec_configured c.2, EncryptionConfig.codec_configured c.2]

/-- The default encryption, with a passphrase. -/
theorem key_statements_faithful_default :
    ∃ t tAll, EncryptionConfig.Default.keyTables false (Key.passphrase (Text.lit "abcd")) = .ok t ∧
      EncryptionConfig.Default.keyTables true (Key.passphrase (Text.lit "abcd")) = .ok tAll ∧
      EncryptionConfig.Default.Faithful t ∧ EncryptionConfig.Default.Faithful tAll ∧
      t.codec = tAll.codec :=
  key_statements_faithful ⟨EncryptionConfig.Default, EncryptionConfig.built_Default⟩
    (Key.passphrase (Text.lit "abcd")) rfl

end SqliteMc
