import SqliteMc.Model.CipherConfig
import Mathlib.Data.Nat.Prime.Basic
import Mathlib.Algebra.IsPrimePow
import Mathlib.NumberTheory.Divisors

/-!
# The invariants of the cipher builders

What the setters' checks guarantee of every configuration a builder produces, whatever
calls were made on it and whichever of them threw. Each configuration class has a
`Valid` predicate; `MCCipherConfig.valid_of_built` assembles the six classes.
-/

namespace SqliteMc

-- ---------------------------------------------------------------------------
-- The shared checks
-- ---------------------------------------------------------------------------

/-- The check of `legacyPageSize` lets page sizes through only. -/
theorem pageSize_of_check {value : Int32} {u : Unit} (h : checkLegacyPageSize value = .ok u) :
    PageSize value := by
  unfold checkLegacyPageSize at h
  split at h
  · rename_i h0
    exact Or.inl h0
  · right
    obtain ⟨_, hrange, h⟩ := bind_eq_ok.mp h
    obtain ⟨h1, h2⟩ := require_eq_ok.mp hrange
    have h3 := require_eq_ok.mp h
    rw [Int32.le_iff_toInt_le] at h1 h2
    rw [← Int32.toInt_inj, Int32.toInt_mod] at h3
    rw [show (512 : Int32).toInt = 512 by decide] at h1
    rw [show (65536 : Int32).toInt = 65536 by decide] at h2 h3
    rw [show (0 : Int32).toInt = 0 by decide] at h3
    obtain ⟨n, hn⟩ := Int.eq_ofNat_of_zero_le (show 0 ≤ value.toInt by omega)
    -- a divisor of 65536 is a power of two
    have hdvd : n ∣ 2 ^ 16 := by
      have := Int.dvd_of_tmod_eq_zero h3
      rw [hn] at this
      exact_mod_cast this
    obtain ⟨k, hk, rfl⟩ := (Nat.dvd_prime_pow Nat.prime_two).mp hdvd
    refine ⟨k, ?_, hk, by rw [hn]; push_cast; rfl⟩
    by_contra hlt
    have : 2 ^ k ≤ 2 ^ 8 := Nat.pow_le_pow_right (by omega) (by omega)
    omega

/-- The check of `kdfIter` lets positive counts through only. -/
theorem pos_of_checkKdfIter {value : Int32} {u : Unit} (h : checkKdfIter value = .ok u) :
    1 ≤ value.toInt := by
  have h := require_eq_ok.mp h
  rw [Int32.lt_iff_toInt_lt, show (0 : Int32).toInt = 0 by decide] at h
  omega

theorem pageSize_zero : PageSize 0 := Or.inl rfl

theorem pageSize_1024 : PageSize 1024 := Or.inr ⟨10, by omega, by omega, by decide⟩

theorem pageSize_4096 : PageSize 4096 := Or.inr ⟨12, by omega, by omega, by decide⟩

/-- A legacy level that passed a range check from 0. -/
def LegacyUpTo (n : Int) (legacy : Int32) : Prop := 0 ≤ legacy.toInt ∧ legacy.toInt ≤ n

/-- The check of `legacy` lets the cipher's own versions through only. -/
theorem legacyUpTo_of_require {n : Int32} {legacy : Int32} {message : String} {u : Unit}
    (h : require (0 ≤ legacy ∧ legacy ≤ n) message = .ok u) : LegacyUpTo n.toInt legacy := by
  obtain ⟨h1, h2⟩ := require_eq_ok.mp h
  rw [Int32.le_iff_toInt_le] at h1 h2
  exact ⟨by simpa using h1, h2⟩

-- ---------------------------------------------------------------------------
-- ChaCha20
-- ---------------------------------------------------------------------------

namespace MCChaCha20Config

structure Valid (c : MCChaCha20Config) : Prop where
  legacy : LegacyUpTo 1 c.legacy
  legacyPageSize : PageSize c.legacyPageSize
  kdfIter : 1 ≤ c.kdfIter.toInt

theorem valid_Default : Default.Valid :=
  ⟨by constructor <;> decide, pageSize_4096, by decide⟩

theorem valid_SQLeet : SQLeet.Valid :=
  ⟨by constructor <;> decide, pageSize_4096, by decide⟩

/-- Every configuration that can be built meets the checks of its builder. -/
theorem valid_of_built {c : MCChaCha20Config} (h : dsl.Built c) : c.Valid := by
  refine CipherDsl.Built.induct (D := dsl) (I := fun b => (Builder.build b).Valid) ?_ ?_ ?_ ?_ h
  -- the start: the default, or a configuration that was built before
  · exact valid_Default
  · intro c hc
    exact ⟨hc.legacy, hc.legacyPageSize, hc.kdfIter⟩
  · intro b call b' hb hcall
    change Builder.call b call = .ok b' at hcall
    -- a call either checks the field that it sets, or takes the fields of a constant
    cases call with
    | legacy value =>
      obtain ⟨hcheck, rfl⟩ := checked_eq_ok.mp hcall
      exact { hb with legacy := legacyUpTo_of_require hcheck }
    | legacyPageSize value =>
      obtain ⟨hcheck, rfl⟩ := checked_eq_ok.mp hcall
      exact { hb with legacyPageSize := pageSize_of_check hcheck }
    | kdfIter value =>
      obtain ⟨hcheck, rfl⟩ := checked_eq_ok.mp hcall
      exact { hb with kdfIter := pos_of_checkKdfIter hcheck }
    | default =>
      cases hcall
      exact valid_Default
    | sqleet =>
      cases hcall
      exact valid_SQLeet
  · exact fun b hb => hb

end MCChaCha20Config

-- ---------------------------------------------------------------------------
-- RC4
-- ---------------------------------------------------------------------------

namespace MCRC4Config

structure Valid (c : MCRC4Config) : Prop where
  legacy : c.legacy = 1
  legacyPageSize : PageSize c.legacyPageSize

/-- Every configuration that can be built meets the checks of its builder. -/
theorem valid_of_built {c : MCRC4Config} (h : dsl.Built c) : c.Valid := by
  refine CipherDsl.Built.induct (D := dsl) (I := fun b => (Builder.build b).Valid) ?_ ?_ ?_ ?_ h
  -- the start: the default, or a configuration that was built before
  · exact ⟨rfl, pageSize_zero⟩
  · intro c hc
    exact ⟨rfl, hc.legacyPageSize⟩
  · intro b call b' hb hcall
    change Builder.call b call = .ok b' at hcall
    -- a call either checks the field that it sets, or takes the fields of a constant
    cases call with
    | legacyPageSize value =>
      obtain ⟨hcheck, rfl⟩ := checked_eq_ok.mp hcall
      exact { hb with legacyPageSize := pageSize_of_check hcheck }
    | default =>
      cases hcall
      exact ⟨rfl, pageSize_zero⟩
  · exact fun b hb => hb

end MCRC4Config

-- ---------------------------------------------------------------------------
-- wxSQLite3 AES
-- ---------------------------------------------------------------------------

namespace MCWxAES128Config

structure Valid (c : MCWxAES128Config) : Prop where
  legacy : LegacyUpTo 1 c.legacy
  legacyPageSize : PageSize c.legacyPageSize

theorem valid_Default : Default.Valid :=
  ⟨by constructor <;> decide, pageSize_zero⟩

/-- Every configuration that can be built meets the checks of its builder. -/
theorem valid_of_built {c : MCWxAES128Config} (h : dsl.Built c) : c.Valid := by
  refine CipherDsl.Built.induct (D := dsl) (I := fun b => (Builder.build b).Valid) ?_ ?_ ?_ ?_ h
  -- the start: the default, or a configuration that was built before
  · exact valid_Default
  · intro c hc
    exact ⟨hc.legacy, hc.legacyPageSize⟩
  · intro b call b' hb hcall
    change Builder.call b call = .ok b' at hcall
    -- a call either checks the field that it sets, or takes the fields of a constant
    cases call with
    | legacy value =>
      obtain ⟨hcheck, rfl⟩ := checked_eq_ok.mp hcall
      exact { hb with legacy := legacyUpTo_of_require hcheck }
    | legacyPageSize value =>
      obtain ⟨hcheck, rfl⟩ := checked_eq_ok.mp hcall
      exact { hb with legacyPageSize := pageSize_of_check hcheck }
    | default =>
      cases hcall
      exact valid_Default
  · exact fun b hb => hb

end MCWxAES128Config

namespace MCWxAES256Config

structure Valid (c : MCWxAES256Config) : Prop where
  legacy : LegacyUpTo 1 c.legacy
  legacyPageSize : PageSize c.legacyPageSize
  kdfIter : 1 ≤ c.kdfIter.toInt

theorem valid_Default : Default.Valid :=
  ⟨by constructor <;> decide, pageSize_zero, by decide⟩

/-- Every configuration that can be built meets the checks of its builder. -/
theorem valid_of_built {c : MCWxAES256Config} (h : dsl.Built c) : c.Valid := by
  refine CipherDsl.Built.induct (D := dsl) (I := fun b => (Builder.build b).Valid) ?_ ?_ ?_ ?_ h
  -- the start: the default, or a configuration that was built before
  · exact valid_Default
  · intro c hc
    exact ⟨hc.legacy, hc.legacyPageSize, hc.kdfIter⟩
  · intro b call b' hb hcall
    change Builder.call b call = .ok b' at hcall
    -- a call either checks the field that it sets, or takes the fields of a constant
    cases call with
    | legacy value =>
      obtain ⟨hcheck, rfl⟩ := checked_eq_ok.mp hcall
      exact { hb with legacy := legacyUpTo_of_require hcheck }
    | legacyPageSize value =>
      obtain ⟨hcheck, rfl⟩ := checked_eq_ok.mp hcall
      exact { hb with legacyPageSize := pageSize_of_check hcheck }
    | kdfIter value =>
      obtain ⟨hcheck, rfl⟩ := checked_eq_ok.mp hcall
      exact { hb with kdfIter := pos_of_checkKdfIter hcheck }
    | default =>
      cases hcall
      exact valid_Default
  · exact fun b hb => hb

end MCWxAES256Config

-- ---------------------------------------------------------------------------
-- Ascon
-- ---------------------------------------------------------------------------

namespace MCAscon128Config

structure Valid (c : MCAscon128Config) : Prop where
  legacy : c.legacy = 0
  legacyPageSize : c.legacyPageSize = 4096
  kdfIter : 1 ≤ c.kdfIter.toInt

theorem valid_Default : Default.Valid :=
  ⟨rfl, rfl, by decide⟩

/-- Every configuration that can be built meets the checks of its builder. -/
theorem valid_of_built {c : MCAscon128Config} (h : dsl.Built c) : c.Valid := by
  refine CipherDsl.Built.induct (D := dsl) (I := fun b => (Builder.build b).Valid) ?_ ?_ ?_ ?_ h
  -- the start: the default, or a configuration that was built before
  · exact valid_Default
  · intro c hc
    exact ⟨rfl, rfl, hc.kdfIter⟩
  · intro b call b' hb hcall
    change Builder.call b call = .ok b' at hcall
    -- a call either checks the field that it sets, or takes the fields of a constant
    cases call with
    | kdfIter value =>
      obtain ⟨hcheck, rfl⟩ := checked_eq_ok.mp hcall
      exact ⟨rfl, rfl, pos_of_checkKdfIter hcheck⟩
    | default =>
      cases hcall
      exact valid_Default
  · exact fun b hb => hb

end MCAscon128Config

-- ---------------------------------------------------------------------------
-- SQLCipher
-- ---------------------------------------------------------------------------

namespace MCSqlCipherConfig

structure Valid (c : MCSqlCipherConfig) : Prop where
  legacy : LegacyUpTo 4 c.legacy
  legacyPageSize : PageSize c.legacyPageSize
  kdfIter : 1 ≤ c.kdfIter.toInt
  fastKdfIter : 1 ≤ c.fastKdfIter.toInt
  hmacPngo_null : c.hmacPngo = none ↔ c.legacy = 1
  hmacSaltMask_null : c.hmacSaltMask = none ↔ c.legacy = 1
  hmacSaltMask : ∀ v ∈ c.hmacSaltMask, 0 ≤ v.toInt
  plaintextHeaderSize_null : c.plaintextHeaderSize = none ↔ 1 ≤ c.legacy ∧ c.legacy ≤ 3
  plaintextHeaderSize : ∀ v ∈ c.plaintextHeaderSize, 0 ≤ v.toInt ∧ v.toInt ≤ 96 ∧ v.toInt % 16 = 0

/-- What the checks guarantee of a builder: the nullable fields may still be null, or not,
at any legacy level. -/
structure Builder.Valid (b : Builder) : Prop where
  legacy : LegacyUpTo 4 b.legacy
  legacyPageSize : PageSize b.legacyPageSize
  kdfIter : 1 ≤ b.kdfIter.toInt
  fastKdfIter : 1 ≤ b.fastKdfIter.toInt
  hmacSaltMask : ∀ v ∈ b.hmacSaltMask, 0 ≤ v.toInt
  plaintextHeaderSize : ∀ v ∈ b.plaintextHeaderSize, 0 ≤ v.toInt ∧ v.toInt ≤ 96 ∧ v.toInt % 16 = 0

/-- The check of `plaintextHeaderSize`: 96 is the last multiple of 16 up to 100. -/
theorem headerSize_of_check {value : Int32} {u u' : Unit} {m m' : String}
    (hrange : require (0 ≤ value ∧ value ≤ 100) m = .ok u)
    (hmod : require (value % 16 = 0) m' = .ok u') :
    0 ≤ value.toInt ∧ value.toInt ≤ 96 ∧ value.toInt % 16 = 0 := by
  obtain ⟨h1, h2⟩ := require_eq_ok.mp hrange
  have h3 := require_eq_ok.mp hmod
  rw [Int32.le_iff_toInt_le] at h1 h2
  rw [← Int32.toInt_inj, Int32.toInt_mod] at h3
  rw [show (0 : Int32).toInt = 0 by decide] at h1 h3
  rw [show (100 : Int32).toInt = 100 by decide] at h2
  rw [show (16 : Int32).toInt = 16 by decide, Int.tmod_eq_emod_of_nonneg h1] at h3
  omega

/-- The preset `default` meets the checks of the builder. -/
theorem Builder.valid_default : Builder.Valid (Builder.default {}) :=
  ⟨by constructor <;> decide, pageSize_4096, by decide, by decide, by rintro v ⟨⟩; decide,
    by rintro v ⟨⟩; decide⟩

/-- The preset `v1` meets the checks of the builder. -/
theorem Builder.valid_v1 : Builder.Valid (Builder.v1 {}) :=
  ⟨by constructor <;> decide, pageSize_1024, by decide, by decide, by rintro v ⟨⟩,
    by rintro v ⟨⟩⟩

/-- The preset `v2` meets the checks of the builder. -/
theorem Builder.valid_v2 : Builder.Valid (Builder.v2 {}) :=
  ⟨by constructor <;> decide, pageSize_1024, by decide, by decide, by rintro v ⟨⟩; decide,
    by rintro v ⟨⟩⟩

/-- The preset `v3` meets the checks of the builder. -/
theorem Builder.valid_v3 : Builder.Valid (Builder.v3 {}) :=
  ⟨by constructor <;> decide, pageSize_1024, by decide, by decide, by rintro v ⟨⟩; decide,
    by rintro v ⟨⟩⟩

/-- The preset `v4` meets the checks of the builder. -/
theorem Builder.valid_v4 : Builder.Valid (Builder.v4 {}) :=
  ⟨by constructor <;> decide, pageSize_4096, by decide, by decide, by rintro v ⟨⟩; decide,
    by rintro v ⟨⟩; decide⟩

/-- No call leads out of what the checks allow. -/
theorem Builder.valid_call {b b' : Builder} {c : Call} (hb : b.Valid) (h : b.call c = .ok b') :
    b'.Valid := by
  cases c with
  | legacy value =>
    obtain ⟨hcheck, rfl⟩ := checked_eq_ok.mp h
    exact { hb with legacy := legacyUpTo_of_require hcheck }
  | legacyPageSize value =>
    obtain ⟨hcheck, rfl⟩ := checked_eq_ok.mp h
    exact { hb with legacyPageSize := pageSize_of_check hcheck }
  | kdfIter value =>
    obtain ⟨hcheck, rfl⟩ := checked_eq_ok.mp h
    exact { hb with kdfIter := pos_of_checkKdfIter hcheck }
  | fastKdfIter value =>
    obtain ⟨hcheck, rfl⟩ := checked_eq_ok.mp h
    exact { hb with fastKdfIter := pos_of_checkKdfIter hcheck }
  | hmacSaltMask value =>
    obtain ⟨hcheck, rfl⟩ := checked_eq_ok.mp h
    -- a null is not checked
    have hmask : ∀ v ∈ value, 0 ≤ v.toInt := by
      rintro v rfl
      have hle := of_decide_eq_true (require_eq_ok.mp hcheck)
      rw [Int8.le_iff_toInt_le] at hle
      simpa using hle
    exact { hb with hmacSaltMask := hmask }
  | plaintextHeaderSize value =>
    obtain ⟨hcheck, rfl⟩ := checked_eq_ok.mp h
    have hsize : ∀ v ∈ value, 0 ≤ v.toInt ∧ v.toInt ≤ 96 ∧ v.toInt % 16 = 0 := by
      rintro v rfl
      obtain ⟨_, hrange, hmod⟩ := bind_eq_ok.mp hcheck
      exact headerSize_of_check hrange hmod
    exact { hb with plaintextHeaderSize := hsize }
  -- the setters that check nothing
  | hmacUse value => cases h; exact { hb with }
  | hmacPngo value => cases h; exact { hb with }
  | kdfAlgorithm value => cases h; exact { hb with }
  | hmacAlgorithm value => cases h; exact { hb with }
  -- the presets
  | default => cases h; exact Builder.valid_default
  | v1 => cases h; exact Builder.valid_v1
  | v2 => cases h; exact Builder.valid_v2
  | v3 => cases h; exact Builder.valid_v3
  | v4 => cases h; exact Builder.valid_v4

section Repair

variable {α : Type} {P : Prop} [Decidable P] {x : Option α} {d : α}

/-- A repaired field is null where it has to be, and there only. -/
theorem repaired_eq_none : (if P then none else some (x.getD d)) = none ↔ P := by
  by_cases hP : P
  · exact iff_of_true (if_pos hP) hP
  · rw [if_neg hP]
    exact iff_of_false (Option.some_ne_none _) hP

/-- Its value is that of the builder, or the default. -/
theorem repaired_eq_some {v : α} (h : (if P then none else some (x.getD d)) = some v) :
    x = some v ∨ v = d := by
  by_cases hP : P
  · rw [if_pos hP] at h
    cases h
  · rw [if_neg hP] at h
    cases x with
    | none => exact Or.inr (Option.some_inj.mp h).symm
    | some w => exact Or.inl h

/-- A field that is null where it has to be is not repaired. -/
theorem repaired_eq_self (h : x = none ↔ P) : (if P then none else some (x.getD d)) = x := by
  by_cases hP : P
  · rw [if_pos hP, h.mpr hP]
  · rw [if_neg hP]
    cases x with
    | none => exact absurd (h.mp rfl) hP
    | some v => rfl

end Repair

/-- `build` repairs the nullable fields, so the configuration is valid. -/
theorem Builder.valid_build {b : Builder} (hb : b.Valid) : b.build.Valid where
  legacy := hb.legacy
  legacyPageSize := hb.legacyPageSize
  kdfIter := hb.kdfIter
  fastKdfIter := hb.fastKdfIter
  hmacPngo_null := repaired_eq_none
  hmacSaltMask_null := repaired_eq_none
  -- what is put in for a null passes the checks of the setter
  hmacSaltMask := by
    intro v hv
    rcases repaired_eq_some hv with hmask | rfl
    · exact hb.hmacSaltMask v hmask
    · decide
  plaintextHeaderSize_null := repaired_eq_none
  plaintextHeaderSize := by
    intro v hv
    rcases repaired_eq_some hv with hsize | rfl
    · exact hb.plaintextHeaderSize v hsize
    · decide

/-- Every configuration that can be built meets the checks of its builder. -/
theorem valid_of_built {c : MCSqlCipherConfig} (h : dsl.Built c) : c.Valid := by
  refine CipherDsl.Built.induct (D := dsl) (I := Builder.Valid) ?_ ?_ ?_ ?_ h
  · exact Builder.valid_default
  · intro c hc
    exact ⟨hc.legacy, hc.legacyPageSize, hc.kdfIter, hc.fastKdfIter, hc.hmacSaltMask,
      hc.plaintextHeaderSize⟩
  · exact fun _ _ _ hb hcall => Builder.valid_call hb hcall
  · exact fun _ hb => Builder.valid_build hb

end MCSqlCipherConfig

-- ---------------------------------------------------------------------------
-- All six
-- ---------------------------------------------------------------------------

namespace MCCipherConfig

def Valid : MCCipherConfig → Prop
  | chaCha20 c => c.Valid
  | rc4 c => c.Valid
  | sqlCipher c => c.Valid
  | wxAES128 c => c.Valid
  | wxAES256 c => c.Valid
  | ascon128 c => c.Valid

/-- Every configuration a cipher builder produces satisfies its class's invariant. -/
theorem valid_of_built : ∀ {c : MCCipherConfig}, c.Built → c.Valid
  | chaCha20 _, h => MCChaCha20Config.valid_of_built h
  | rc4 _, h => MCRC4Config.valid_of_built h
  | sqlCipher _, h => MCSqlCipherConfig.valid_of_built h
  | wxAES128 _, h => MCWxAES128Config.valid_of_built h
  | wxAES256 _, h => MCWxAES256Config.valid_of_built h
  | ascon128 _, h => MCAscon128Config.valid_of_built h

end MCCipherConfig

end SqliteMc
