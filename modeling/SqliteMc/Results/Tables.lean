import SqliteMc.Model.ApplyPragmas
import SqliteMc.Model.Engine
import SqliteMc.Model.CipherInvariant
import Mathlib.Tactic.IntervalCases

/-!
# What configuration statements leave in the tables

The parameter statements of a configuration run on a connection whose selected cipher is
the configuration's. Each entry ends up with the integer its own pragma was given; failing
that with the one a SQLCipher version sets; failing that with what it held before
(`table_run_settings`).

`MCCipherConfig.takes_emitted` is where the builders' checks come in: a configuration never
emits a value the table would refuse.
-/

namespace SqliteMc

open Engine

/-- The pragma that names an entry. -/
def CipherParam.pragma : CipherParam → Option MCPragma
  | .legacy => some .legacy
  | .legacyPageSize => some .legacyPageSize
  | .kdfIter => some .kdfIter
  | .fastKdfIter => some .fastKdfIter
  | .hmacUse => some .hmacUse
  | .hmacPgno => some .hmacPngo
  | .hmacSaltMask => some .hmacSaltMask
  | .kdfAlgorithm => some .kdfAlgorithm
  | .hmacAlgorithm => some .hmacAlgorithm
  | .hmacAlgorithmCompat => none
  | .plaintextHeaderSize => some .plainTextHeaderSize

/-- A parameter is set by one pragma at most, and a pragma sets one parameter at most. -/
theorem CipherParam.pragma_eq_some_iff (q : CipherParam) (p : MCPragma) :
    q.pragma = some p ↔ p.param = some q := by
  cases q <;> cases p <;> decide

namespace Engine

/-- Set an entry if there is something to set it to. -/
def Setting.update (schema : Schema) (value : Option Int) (e : Setting) : Setting :=
  match value with
  | some n => e.set schema n
  | none => e

@[simp] theorem Setting.update_none (schema : Schema) (e : Setting) : e.update schema none = e := rfl

/-- An update without a value leaves the setting. -/
theorem Setting.value_update (schema : Schema) (value : Option Int) (e : Setting) :
    (e.update schema value).value = value.getD e.value := by
  cases value with
  | none => rfl
  | some n => cases schema <;> rfl

namespace Parameters

/-! ## One statement -/

/-- Setting cipher parameters touches nothing but the tables. -/
structure SameGlobals (t t' : Parameters) : Prop where
  cipherDefault : t'.cipherDefault = t.cipherDefault
  cipher : t'.cipher = t.cipher
  hmacCheck : t'.hmacCheck = t.hmacCheck
  mcLegacyWal : t'.mcLegacyWal = t.mcLegacyWal

theorem SameGlobals.refl (t : Parameters) : SameGlobals t t := ⟨rfl, rfl, rfl, rfl⟩

theorem SameGlobals.trans {a b c : Parameters} (hab : SameGlobals a b) (hbc : SameGlobals b c) :
    SameGlobals a c :=
  ⟨hbc.cipherDefault.trans hab.cipherDefault, hbc.cipher.trans hab.cipher,
    hbc.hmacCheck.trans hab.hmacCheck, hbc.mcLegacyWal.trans hab.mcLegacyWal⟩

theorem sameGlobals_write (t : Parameters) (c : Cipher) (schema : Schema) (p : CipherParam)
    (value : Int) : SameGlobals t (t.write c schema p value) := by
  unfold write
  split
  · exact ⟨rfl, rfl, rfl, rfl⟩
  · exact SameGlobals.refl t

theorem sameGlobals_configureSQLCipherVersion (t : Parameters) (schema : Schema) (version : Int) :
    SameGlobals t (t.configureSQLCipherVersion schema version) := by
  unfold configureSQLCipherVersion
  induction versionNames generalizing t with
  | nil => exact SameGlobals.refl t
  | cons p rest ih =>
    rw [List.foldl_cons]
    refine SameGlobals.trans ?_ (ih _)
    unfold writeVersionParam
    cases versionParams version p with
    | none => exact SameGlobals.refl t
    | some value => exact sameGlobals_write t _ schema p value

theorem sameGlobals_configCipher (t : Parameters) (schema : Schema) (p : CipherParam)
    (value : Int) : SameGlobals t (t.configCipher schema p value) := by
  unfold configCipher
  refine SameGlobals.trans ?_ (sameGlobals_write _ _ _ _ _)
  split
  · exact sameGlobals_configureSQLCipherVersion t schema value
  · exact SameGlobals.refl t

/-- Setting a version writes each parameter the version covers, and only those. -/
theorem table_writeVersionParam (t : Parameters) (schema : Schema) (version : Int)
    (p : CipherParam) (c : Cipher) (q : CipherParam) :
    (t.writeVersionParam schema version p).table c q =
      if c = .sqlcipher ∧ q = p then (t.table c q).update schema (versionParams version p)
      else t.table c q := by
  unfold writeVersionParam
  cases h : versionParams version p with
  | none => simp
  | some value => exact table_write t schema (takes_versionParams h) c q

/-- A parameter that the versions do not name. -/
theorem versionParams_of_not_mem {q : CipherParam} (h : q ∉ versionNames) (version : Int) :
    versionParams version q = none := by
  unfold versionParams
  split <;> first | rfl | exact absurd (by decide) h

/-- A SQLCipher version sets the five parameters it names. -/
theorem table_configureSQLCipherVersion (t : Parameters) (schema : Schema) (version : Int)
    (c : Cipher) (q : CipherParam) :
    (t.configureSQLCipherVersion schema version).table c q =
      if c = .sqlcipher then (t.table c q).update schema (versionParams version q)
      else t.table c q := by
  unfold configureSQLCipherVersion
  simp only [versionNames, List.foldl_cons, List.foldl_nil, table_writeVersionParam]
  by_cases hc : c = .sqlcipher
  -- each of the five entries is written once
  · by_cases hq : q ∈ versionNames
    · simp only [versionNames, List.mem_cons, List.not_mem_nil, or_false] at hq
      rcases hq with rfl | rfl | rfl | rfl | rfl <;> simp [hc]
    · rw [versionParams_of_not_mem hq version]
      simp only [versionNames, List.mem_cons, List.not_mem_nil, or_false, not_or] at hq
      simp [hc, hq]
  · simp [hc]

/-- What a pragma of the selected cipher does to the entries of that cipher. -/
theorem table_configCipher {t : Parameters} {c : Cipher} (hc : t.cipher = c) (schema : Schema)
    {p : CipherParam} {value : Int} (h : takes c p value = true) (q : CipherParam) :
    (t.configCipher schema p value).table c q =
      ((t.table c q).update schema
        (if c = .sqlcipher ∧ p = .legacy then versionParams value q else none)).update schema
        (if q = p then some value else none) := by
  subst hc
  have hversion : ∀ n, ¬ (0 < n ∧ n ≤ 4) → versionParams n q = none := by
    intro n hn
    unfold versionParams
    split <;> first | rfl | omega
  -- the five parameters of a version first
  have hinner :
      (if t.cipher = .sqlcipher ∧ p = .legacy ∧ 0 < value ∧ value ≤ 4 then
        t.configureSQLCipherVersion schema value else t).table t.cipher q =
      (t.table t.cipher q).update schema
        (if t.cipher = .sqlcipher ∧ p = .legacy then versionParams value q else none) := by
    by_cases hlegacy : t.cipher = .sqlcipher ∧ p = .legacy
    · by_cases hrange : 0 < value ∧ value ≤ 4
      · rw [if_pos ⟨hlegacy.1, hlegacy.2, hrange⟩, table_configureSQLCipherVersion,
          if_pos hlegacy.1, if_pos hlegacy]
      · rw [if_neg (fun hand => hrange hand.2.2), if_pos hlegacy, hversion value hrange]
        rfl
    · rw [if_neg (fun hand => hlegacy ⟨hand.1, hand.2.1⟩), if_neg hlegacy]
      rfl
  rw [configCipher, table_write _ schema h, hinner]
  by_cases hq : q = p
  · rw [if_pos ⟨rfl, hq⟩, if_pos hq]
    rfl
  · rw [if_neg (fun hand => hq hand.2), if_neg hq]
    rfl

/-- The tables of the other ciphers are left alone. -/
theorem table_configCipher_of_ne {t : Parameters} {c : Cipher} (hc : t.cipher ≠ c)
    (schema : Schema) (p : CipherParam) (value : Int) (q : CipherParam) :
    (t.configCipher schema p value).table c q = t.table c q := by
  -- a write is to the selected cipher
  have hwrite : ∀ (t' : Parameters), (t'.write t.cipher schema p value).table c q =
      t'.table c q := by
    intro t'
    unfold write
    split
    · exact if_neg fun hand => hc hand.1.symm
    · rfl
  rw [configCipher, hwrite]
  split
  · rename_i hlegacy
    have hne : c ≠ .sqlcipher := fun h => hc (hlegacy.1.trans h.symm)
    rw [table_configureSQLCipherVersion, if_neg hne]
  · rfl

end Parameters

/-! ## The parameter statements of a configuration -/

/-- Every integer of `f` is one the table of `c` takes. -/
def Takes (c : Cipher) (f : MCPragma → Option Int32) : Prop :=
  ∀ p q n, p.param = some q → f p = some n → (bounds c q).isSome = true →
    takes c q n.toInt = true

/-- The integer an entry is set to: that of its own pragma, else that of the SQLCipher
version which `legacy` stands for. -/
def settle (c : Cipher) (f : MCPragma → Option Int32) (q : CipherParam) : Option Int :=
  ((q.pragma.bind f).map Int32.toInt).or
    (if c = .sqlcipher then (f .legacy).bind fun n => Parameters.versionParams n.toInt q else none)

namespace Parameters

/-- The statement for the pragma `p`, when `f` has an integer for it. -/
def configPragma (schema : Schema) (f : MCPragma → Option Int32) (t : Parameters) (p : MCPragma) :
    Parameters :=
  match f p with
  | some n => t.config schema p n.toInt
  | none => t

/-- A configuration pragma changes no cipher selection. -/
theorem configPragma_cipher (schema : Schema) (f : MCPragma → Option Int32) (t : Parameters)
    (p : MCPragma) :
    (configPragma schema f t p).cipher = t.cipher ∧
      (configPragma schema f t p).cipherDefault = t.cipherDefault := by
  unfold configPragma
  cases f p with
  | none => exact ⟨rfl, rfl⟩
  | some n =>
    cases p <;> first
      | exact ⟨rfl, rfl⟩
      | exact ⟨(sameGlobals_configCipher t schema _ _).cipher,
          (sameGlobals_configCipher t schema _ _).cipherDefault⟩

/-- The statement for a pragma that names an entry. -/
theorem config_of_param {p : MCPragma} {q : CipherParam} (h : p.param = some q) (t : Parameters)
    (schema : Schema) (n : Int) : t.config schema p n = t.configCipher schema q n := by
  unfold config
  split
  · cases h
  · cases h
  · rw [h]

/-- The statement for a pragma that names no entry leaves the tables alone. -/
theorem table_config_of_param_eq_none {p : MCPragma} (h : p.param = none) (t : Parameters)
    (schema : Schema) (n : Int) : (t.config schema p n).table = t.table := by
  unfold config
  split
  · rfl
  · rfl
  · rw [h]

/-- What the statement for one pragma does to an entry of the selected cipher. -/
theorem table_configPragma {t : Parameters} {c : Cipher} (hc : t.cipher = c) (schema : Schema)
    {f : MCPragma → Option Int32} (hf : Takes c f) {q : CipherParam}
    (hq : (bounds c q).isSome = true) (p : MCPragma) :
    (configPragma schema f t p).table c q =
      ((t.table c q).update schema
        (if c = .sqlcipher ∧ p = .legacy then (f p).bind fun n => versionParams n.toInt q
          else none)).update schema
        (if p.param = some q then (f p).map Int32.toInt else none) := by
  unfold configPragma
  cases hfp : f p with
  | none => simp
  | some n =>
    cases hparam : p.param with
    -- the two switches are in no table of a cipher
    | none =>
      have hlegacy : p ≠ .legacy := by rintro rfl; cases hparam
      simp [table_config_of_param_eq_none hparam, hlegacy]
    | some q0 =>
      have hlegacy : p = .legacy ↔ q0 = .legacy := by
        revert hparam
        cases p <;> simp [MCPragma.param] <;> rintro rfl <;> simp
      simp only [config_of_param hparam]
      by_cases hbounds : (bounds c q0).isSome = true
      · rw [table_configCipher hc schema (hf p q0 n hparam hfp hbounds)]
        simp only [hlegacy, Option.bind_some, Option.map_some, Option.some_inj,
          eq_comm (a := q0)]
      · -- the cipher has no such entry, and the value is refused
        have hnone : bounds c q0 = none := by simpa using hbounds
        have hrefused : takes c q0 n.toInt = false := by rw [takes, hnone]
        have hne : q0 ≠ q := by
          rintro rfl
          exact hbounds hq
        have hsql : ¬ (c = .sqlcipher ∧ p = .legacy) := by
          rintro ⟨rfl, hp⟩
          rw [hlegacy.mp hp] at hnone
          cases hnone
        have hversion : ¬ (t.cipher = .sqlcipher ∧ q0 = .legacy ∧ 0 < n.toInt ∧ n.toInt ≤ 4) :=
          fun h => hsql ⟨hc ▸ h.1, hlegacy.mpr h.2.1⟩
        rw [configCipher, if_neg hversion, if_neg hsql, write, hc, hrefused]
        simp [hne]

/-- A configuration pragma of the selected cipher changes no other cipher's settings. -/
theorem table_configPragma_of_ne {t : Parameters} {c : Cipher} (hc : t.cipher ≠ c)
    (schema : Schema) (f : MCPragma → Option Int32) (q : CipherParam) (p : MCPragma) :
    (configPragma schema f t p).table c q = t.table c q := by
  unfold configPragma
  cases f p with
  | none => rfl
  | some n =>
    cases hparam : p.param with
    | none => exact congrFun (congrFun (table_config_of_param_eq_none hparam t schema _) c) q
    | some q0 =>
      simp only [config_of_param hparam]
      exact table_configCipher_of_ne hc schema q0 n.toInt q

/-! ## All of them -/

/-- The parameter statements of a configuration, one after the other. -/
def configPragmas (schema : Schema) (f : MCPragma → Option Int32) (t : Parameters) : Parameters :=
  MCPragma.parameters.foldl (configPragma schema f) t

/-- The configuration pragmas change no cipher selection. -/
theorem configPragmas_cipher (schema : Schema) (f : MCPragma → Option Int32) (t : Parameters) :
    (configPragmas schema f t).cipher = t.cipher ∧
      (configPragmas schema f t).cipherDefault = t.cipherDefault := by
  unfold configPragmas
  induction MCPragma.parameters generalizing t with
  | nil => exact ⟨rfl, rfl⟩
  | cons p rest ih =>
    obtain ⟨h1, h2⟩ := configPragma_cipher schema f t p
    obtain ⟨ih1, ih2⟩ := ih (configPragma schema f t p)
    exact ⟨ih1.trans h1, ih2.trans h2⟩

/-- Of two updates the later one has the say, where it has a value. -/
private theorem update_update (e : Setting) (schema : Schema) (x y : Option Int) :
    (e.update schema x).update schema y = e.update schema (y.or x) := by
  cases x <;> cases y <;> cases schema <;> rfl

/-- An entry is updated by each pragma in turn. -/
private theorem table_foldl_configPragma {c : Cipher} (schema : Schema)
    {f : MCPragma → Option Int32} (hf : Takes c f) {q : CipherParam}
    (hq : (bounds c q).isSome = true) (ps : List MCPragma) {t : Parameters} (hc : t.cipher = c) :
    (ps.foldl (configPragma schema f) t).table c q =
      ps.foldl (fun e p => e.update schema
        ((if p.param = some q then (f p).map Int32.toInt else none).or
          (if c = .sqlcipher ∧ p = .legacy then (f p).bind fun n => versionParams n.toInt q
            else none))) (t.table c q) := by
  induction ps generalizing t with
  | nil => rfl
  | cons p rest ih =>
    -- no parameter selects another cipher
    have hcipher : (configPragma schema f t p).cipher = c := by
      rw [(configPragma_cipher schema f t p).1, hc]
    rw [List.foldl_cons, ih hcipher, table_configPragma hc schema hf hq p, update_update]
    rfl

/-- Each entry of the selected cipher is set to what the configuration settles it to. -/
theorem table_configPragmas {t : Parameters} {c : Cipher} (hc : t.cipher = c) (schema : Schema)
    {f : MCPragma → Option Int32} (hf : Takes c f) {q : CipherParam}
    (hq : (bounds c q).isSome = true) :
    (configPragmas schema f t).table c q = (t.table c q).update schema (settle c f q) := by
  have hlegacy : ∀ n, versionParams n .legacy = none := versionParams_of_not_mem (by decide)
  rw [configPragmas, table_foldl_configPragma schema hf hq _ hc]
  simp only [MCPragma.parameters, List.foldl_cons, List.foldl_nil, update_update, settle]
  -- `legacy` comes before the parameters that its version covers
  cases q <;> simp [MCPragma.param, CipherParam.pragma, hlegacy]

/-- The configuration pragmas change no other cipher's settings. -/
theorem table_configPragmas_of_ne {t : Parameters} {c : Cipher} (hc : t.cipher ≠ c)
    (schema : Schema) (f : MCPragma → Option Int32) (q : CipherParam) :
    (configPragmas schema f t).table c q = t.table c q := by
  unfold configPragmas
  induction MCPragma.parameters generalizing t with
  | nil => rfl
  | cons p rest ih =>
    have hne : (configPragma schema f t p).cipher ≠ c := by
      rw [(configPragma_cipher schema f t p).1]
      exact hc
    rw [List.foldl_cons, ih hne, table_configPragma_of_ne hc]

/-- The two global switches are set when their pragmas are given, by value only. -/
theorem switches_configPragmas (schema : Schema) (f : MCPragma → Option Int32) (t : Parameters) :
    (configPragmas schema f t).hmacCheck =
        { t.hmacCheck with
          value := ((f .hmacCheck).map fun n => getBoolean n.toInt 1).getD t.hmacCheck.value } ∧
      (configPragmas schema f t).mcLegacyWal =
        { t.mcLegacyWal with
          value := ((f .mcLegacyWal).map fun n => getBoolean n.toInt 0).getD t.mcLegacyWal.value } := by
  -- no other pragma writes to the switches
  have hother : ∀ p t', p ≠ .hmacCheck → p ≠ .mcLegacyWal →
      (configPragma schema f t' p).hmacCheck = t'.hmacCheck ∧
        (configPragma schema f t' p).mcLegacyWal = t'.mcLegacyWal := by
    intro p t' h1 h2
    unfold configPragma
    cases f p with
    | none => exact ⟨rfl, rfl⟩
    | some n =>
      cases p <;> first
        | exact absurd rfl h1
        | exact absurd rfl h2
        | exact ⟨rfl, rfl⟩
        | exact ⟨(sameGlobals_configCipher t' schema _ _).hmacCheck,
            (sameGlobals_configCipher t' schema _ _).mcLegacyWal⟩
  have hrest : ∀ ps : List MCPragma, .hmacCheck ∉ ps → .mcLegacyWal ∉ ps → ∀ t',
      (ps.foldl (configPragma schema f) t').hmacCheck = t'.hmacCheck ∧
        (ps.foldl (configPragma schema f) t').mcLegacyWal = t'.mcLegacyWal := by
    intro ps
    induction ps with
    | nil => exact fun _ _ t' => ⟨rfl, rfl⟩
    | cons p rest ih =>
      intro h1 h2 t'
      rw [List.mem_cons, not_or] at h1 h2
      obtain ⟨ha, hb⟩ := hother p t' (Ne.symm h1.1) (Ne.symm h2.1)
      obtain ⟨iha, ihb⟩ := ih h1.2 h2.2 (configPragma schema f t' p)
      exact ⟨iha.trans ha, ihb.trans hb⟩
  -- the two are the first of the parameters
  obtain ⟨hcheck, hwal⟩ := hrest MCPragma.parameters.tail.tail (by decide) (by decide)
    (configPragma schema f (configPragma schema f t .hmacCheck) .mcLegacyWal)
  have hfold : configPragmas schema f t = MCPragma.parameters.tail.tail.foldl
      (configPragma schema f)
      (configPragma schema f (configPragma schema f t .hmacCheck) .mcLegacyWal) := rfl
  rw [hfold, hcheck, hwal]
  unfold configPragma
  cases f .hmacCheck <;> cases f .mcLegacyWal <;> exact ⟨rfl, rfl⟩

end Parameters

end Engine

/-! ## The statements of a configuration -/

/-- What is emitted for a parameter is what its cipher emits for it. -/
theorem EncryptionConfig.emitted_of_param {p : MCPragma} {q : CipherParam} (h : p.param = some q)
    (c : EncryptionConfig) (addAll : Bool) :
    c.emitted addAll p = c.cipherConfig.emitted addAll p := by
  cases p <;> first | rfl | cases h

/-- A value within its bounds is taken. -/
private theorem takes_of_bounds {c : Cipher} {p : CipherParam} {lo hi value : Int}
    (hb : bounds c p = some (lo, hi)) (h0 : 0 ≤ value) (hlo : lo ≤ value) (hhi : value ≤ hi)
    (hcheck : checkParameterValue p value c = true) : takes c p value = true := by
  rw [takes, hb]
  simp [h0, hlo, hhi, hcheck]

/-- A page size is within its bounds. -/
private theorem takes_pageSize {c : Cipher} {value : Int32}
    (hc : bounds c .legacyPageSize = some (0, 65536)) (h : PageSize value) :
    takes c .legacyPageSize value.toInt = true := by
  rcases h with rfl | ⟨k, h1, h2, hk⟩
  · exact takes_of_bounds hc (by decide) (by decide) (by decide) rfl
  · rw [hk]
    interval_cases k <;> exact takes_of_bounds hc (by decide) (by decide) (by decide) rfl

/-- An iteration count is within its bounds. -/
private theorem takes_kdfIter {c : Cipher} {p : CipherParam} {value : Int32}
    (hc : bounds c p = some (1, 0x7fffffff)) (h : 1 ≤ value.toInt)
    (hcheck : checkParameterValue p value.toInt c = true) : takes c p value.toInt = true := by
  have hmax := value.toInt_lt
  exact takes_of_bounds hc (by omega) h (by omega) hcheck

/-- A version is within its bounds. -/
private theorem takes_legacy {c : Cipher} {hi : Int} {value : Int32}
    (hc : bounds c .legacy = some (0, hi)) (h : LegacyUpTo hi value) :
    takes c .legacy value.toInt = true :=
  takes_of_bounds hc h.1 h.1 h.2 rfl

/-- The fields of a SQLCipher configuration are values the table takes. -/
private theorem takes_field_sqlCipher {c : MCSqlCipherConfig} (hv : c.Valid) :
    Takes .sqlcipher (MCCipherConfig.sqlCipher c).field := by
  intro p q n hparam hfield _
  cases p with
  | legacy =>
    cases hparam; cases hfield
    exact takes_legacy rfl hv.legacy
  | legacyPageSize =>
    cases hparam; cases hfield
    exact takes_pageSize rfl hv.legacyPageSize
  | kdfIter =>
    cases hparam; cases hfield
    exact takes_kdfIter rfl hv.kdfIter rfl
  | fastKdfIter =>
    cases hparam; cases hfield
    exact takes_kdfIter rfl hv.fastKdfIter rfl
  -- the values of the enumerations are checked one by one
  | hmacUse =>
    cases hparam; cases hfield
    cases c.hmacUse <;> decide
  | hmacPngo =>
    cases hparam
    obtain ⟨v, -, rfl⟩ := Option.map_eq_some_iff.mp hfield
    cases v <;> decide
  | hmacSaltMask =>
    cases hparam
    obtain ⟨v, hmask, rfl⟩ := Option.map_eq_some_iff.mp hfield
    -- a mask is a byte that is not negative
    have h0 := hv.hmacSaltMask v hmask
    have hmax := v.toInt_lt
    rw [Int8.toInt_toInt32]
    exact takes_of_bounds rfl h0 h0 (by omega) rfl
  | kdfAlgorithm =>
    cases hparam; cases hfield
    cases c.kdfAlgorithm <;> decide
  | hmacAlgorithm =>
    cases hparam; cases hfield
    cases c.hmacAlgorithm <;> decide
  | plainTextHeaderSize =>
    cases hparam
    obtain ⟨h0, h1, h2⟩ := hv.plaintextHeaderSize n hfield
    refine takes_of_bounds rfl h0 h0 (by omega) ?_
    simp [checkParameterValue, h2]
  | _ => cases hparam

/-- The fields of a built configuration are values its cipher's table takes. -/
theorem MCCipherConfig.takes_field {c : MCCipherConfig} (hbuilt : c.Built) :
    Takes c.cipher c.field := by
  have hvalid := valid_of_built hbuilt
  cases c with
  | sqlCipher c => exact takes_field_sqlCipher hvalid
  | chaCha20 c =>
    obtain ⟨hlegacy, hpage, hkdf⟩ : c.Valid := hvalid
    intro p q n hparam hfield _
    cases p with
    | legacy => cases hparam; cases hfield; exact takes_legacy rfl hlegacy
    | legacyPageSize => cases hparam; cases hfield; exact takes_pageSize rfl hpage
    | kdfIter => cases hparam; cases hfield; exact takes_kdfIter rfl hkdf rfl
    | _ => cases hfield
  | rc4 c =>
    obtain ⟨hlegacy, hpage⟩ : c.Valid := hvalid
    intro p q n hparam hfield _
    cases p with
    | legacy =>
      cases hparam; cases hfield
      rw [hlegacy]
      exact takes_of_bounds rfl (by decide) (by decide) (by decide) rfl
    | legacyPageSize => cases hparam; cases hfield; exact takes_pageSize rfl hpage
    | _ => cases hfield
  | wxAES128 c =>
    obtain ⟨hlegacy, hpage⟩ : c.Valid := hvalid
    intro p q n hparam hfield _
    cases p with
    | legacy => cases hparam; cases hfield; exact takes_legacy rfl hlegacy
    | legacyPageSize => cases hparam; cases hfield; exact takes_pageSize rfl hpage
    | _ => cases hfield
  | wxAES256 c =>
    obtain ⟨hlegacy, hpage, hkdf⟩ : c.Valid := hvalid
    intro p q n hparam hfield _
    cases p with
    | legacy => cases hparam; cases hfield; exact takes_legacy rfl hlegacy
    | legacyPageSize => cases hparam; cases hfield; exact takes_pageSize rfl hpage
    | kdfIter => cases hparam; cases hfield; exact takes_kdfIter rfl hkdf rfl
    | _ => cases hfield
  | ascon128 c =>
    -- the cipher has no legacy level and no page size
    obtain ⟨-, -, hkdf⟩ : c.Valid := hvalid
    intro p q n hparam hfield hbounds
    cases p with
    | legacy => cases hparam; cases hbounds
    | legacyPageSize => cases hparam; cases hbounds
    | kdfIter => cases hparam; cases hfield; exact takes_kdfIter rfl hkdf rfl
    | _ => cases hfield

/-- The configuration emits only values that its cipher takes. -/
theorem EncryptionConfig.takes_emitted {c : EncryptionConfig} (hbuilt : c.Built) (addAll : Bool) :
    Takes c.cipherConfig.cipher (c.emitted addAll) := by
  intro p q n hparam hemitted hbounds
  rw [emitted_of_param hparam] at hemitted
  exact MCCipherConfig.takes_field hbuilt p q n hparam
    (MCCipherConfig.emitted_eq_some hemitted) hbounds

/-- Running the statements that select and configure a cipher. -/
theorem EncryptionConfig.run_configStatements (c : EncryptionConfig) (addAll : Bool)
    (schema : Schema) (t : Parameters) :
    run t (c.configStatements addAll schema) =
      Parameters.configPragmas schema (c.emitted addAll)
        (t.selectCipher schema c.cipherConfig.cipher.name) := by
  rw [configStatements, run_cons, run, List.foldl_map, settings, List.foldl_filterMap]
  refine List.foldl_ext _ _ _ ?_
  intro t' p _
  unfold Parameters.configPragma
  cases c.emitted addAll p <;> rfl

end SqliteMc
