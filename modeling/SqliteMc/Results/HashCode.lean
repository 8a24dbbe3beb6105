import SqliteMc.Model.HashCode

/-!
# `equals` and `hashCode`

Whether two equal configurations have equal hash codes.

* `equals_hashCode_iff` — the classes that hold no collection always agree. The others are
  compared regardless of the order in which their builders were called, and hashed in that
  order: the hash codes of the entries decide whether it shows
  (`EncryptionMigrationConfig.HashesAlike`, `PragmaConfig.EntriesAlike`).
* `EncryptionMigrationConfig.built_iff`, `PragmaConfig.built_iff` — every order of the entries
  of what a builder builds is built by another one.
-/

namespace SqliteMc

/-! ## Classes without collections -/

/-- Equality of the cipher configurations is that of their fields. -/
theorem MCCipherConfig.equals_iff (c other : MCCipherConfig) :
    c.equals other = true ↔ c = other := by
  constructor
  · intro h
    unfold equals at h
    split at h
    -- of two classes
    case h_7 => exact absurd h Bool.false_ne_true
    all_goals
      rename_i c other
      cases c
      cases other
      simp only [Bool.and_eq_true, beq_iff_eq] at h
      simp only [h]
  · rintro rfl
    cases c <;> simp only [equals, beq_self_eq_true, Bool.and_true]

/-- Configurations are equal when their fields are, which the source's `equals` compares one by
one. -/
theorem EncryptionConfig.equals_iff (c other : EncryptionConfig) :
    c.equals other = true ↔ c = other := by
  unfold equals
  rw [Bool.and_eq_true, Bool.and_eq_true, beq_iff_eq, beq_iff_eq, MCCipherConfig.equals_iff]
  constructor
  · rintro ⟨⟨hcheck, hwal⟩, hcipher⟩
    cases c
    cases other
    simp only at hcheck hwal hcipher
    rw [hcheck, hwal, hcipher]
  · rintro rfl
    exact ⟨⟨rfl, rfl⟩, rfl⟩

/-- Migrations are equal when their fields are. -/
theorem EncryptionMigration.equals_iff (m other : EncryptionMigration) :
    m.equals other = true ↔ m = other := by
  unfold equals
  rw [EncryptionConfig.equals_iff]
  constructor
  · exact fun h => congrArg mk h.symm
  · exact fun h => congrArg encryptionConfig h.symm

/-! ## Migrations -/

namespace EncryptionMigrationConfig

/-- The configurations that builders build. -/
def Built (c : EncryptionMigrationConfig) : Prop :=
  ∃ inherited calls, (runCalls Builder.call (Builder.new inherited) calls).build = some c

/-- Anything but the empty set of migrations. -/
theorem built_iff (c : EncryptionMigrationConfig) : c.Built ↔ c.migrations.isEmpty = false := by
  constructor
  · rintro ⟨inherited, calls, hbuild⟩
    unfold Builder.build at hbuild
    split at hbuild
    · cases hbuild
    · rename_i hempty
      cases hbuild
      exact Bool.eq_false_iff.mpr hempty
  · intro hempty
    -- inherited as it is
    refine ⟨some c, [], ?_⟩
    rw [runCalls, List.foldl_nil, builder_new, Builder.build,
      if_neg (Bool.eq_false_iff.mp hempty)]

/-- Equality of migration configurations is that of their sets of migrations. -/
theorem equals_iff (c other : EncryptionMigrationConfig) :
    c.equals other = true ↔ c.migrations.entries.Perm other.migrations.entries :=
  LinkedMap.equals_iff_perm _ _

theorem built_reorder {c : EncryptionMigrationConfig} (hc : c.Built)
    {es : List (EncryptionMigration × Unit)} (h : es.Perm c.migrations.entries) :
    (mk (c.migrations.reorder es h)).Built := by
  rw [built_iff] at hc ⊢
  rw [← hc]
  exact h.isEmpty_eq

/-- The hash codes of the migrations are the same up to the highest bit. -/
def HashesAlike (E : EnumHashCodes) (c : EncryptionMigrationConfig) : Prop :=
  ∀ m ∈ c.migrations.keys, ∀ m' ∈ c.migrations.keys,
    HashCode.SameUpTo 1 (m.hashCode E) (m'.hashCode E)

/-- The hash code is a fold over the migrations, in the order of the map. -/
theorem hashCode_eq (E : EnumHashCodes) (c : EncryptionMigrationConfig) :
    c.hashCode E = HashCode.foldBase 31 (fun e => e.1.hashCode E) 17 c.migrations.entries :=
  HashCode.foldFrom_map _ _ _

/-- All orders of the migrations have one hash code. -/
theorem reorder_iff (E : EnumHashCodes) (c : EncryptionMigrationConfig) :
    (∀ es (h : es.Perm c.migrations.entries),
      hashCode E ⟨c.migrations.reorder es h⟩ = c.hashCode E) ↔ c.HashesAlike E := by
  have hfold := HashCode.foldBase_perm_iff (fun e : EncryptionMigration × Unit => e.1.hashCode E)
    HashCode.unit_31 17 c.migrations.entries
  simp only [HashCode.sub_mul_30_eq_zero_iff] at hfold
  simp only [hashCode_eq]
  refine Iff.trans hfold ?_
  unfold HashesAlike LinkedMap.keys
  simp only [List.forall_mem_map]

/-- Equal configurations hash alike exactly when the order of the migrations does not matter. -/
theorem agrees_iff (E : EnumHashCodes) {c : EncryptionMigrationConfig} (hc : c.Built) :
    (∀ other : EncryptionMigrationConfig, other.Built → c.equals other = true →
      c.hashCode E = other.hashCode E) ↔ c.HashesAlike E := by
  rw [← reorder_iff]
  constructor
  -- what is built can be built in any other order, and is equal to it
  · intro h es hperm
    exact (h _ (built_reorder hc hperm) ((c.equals_iff _).mpr hperm.symm)).symm
  · intro h other _ hequals
    exact (h other.migrations.entries ((c.equals_iff other).mp hequals).symm).symm

end EncryptionMigrationConfig

/-! ## Pragmas -/

namespace PragmaConfig

/-- The configurations that builders build. -/
def Built (c : PragmaConfig) : Prop :=
  ∃ inherited, ∃ calls : List Builder.Call,
    (calls.foldl Builder.call (Builder.new inherited)).build = c

/-- Any maps without the names that `build` takes out. -/
theorem built_iff (c : PragmaConfig) :
    c.Built ↔ ∀ name ∈ Builder.removed, name ∉ c.ephemeral.keys ∧ name ∉ c.filesystem.keys := by
  constructor
  · rintro ⟨inherited, calls, rfl⟩ name hname
    exact ⟨fun hmem => ((LinkedMap.mem_keys_removeAll _ _ _).mp hmem).1 hname,
      fun hmem => ((LinkedMap.mem_keys_removeAll _ _ _).mp hmem).1 hname⟩
  · intro h
    refine ⟨some c, [], ?_⟩
    rw [List.foldl_nil, builder_new, Builder.build,
      LinkedMap.removeAll_eq_self fun name hname => (h name hname).1,
      LinkedMap.removeAll_eq_self fun name hname => (h name hname).2]

theorem built_reorder {c : PragmaConfig} (hc : c.Built) {es es' : List (Text × Text)}
    (h : es.Perm c.ephemeral.entries) (h' : es'.Perm c.filesystem.entries) :
    (mk (c.ephemeral.reorder es h) (c.filesystem.reorder es' h')).Built := by
  rw [built_iff] at hc ⊢
  intro name hname
  obtain ⟨hephemeral, hfilesystem⟩ := hc name hname
  exact ⟨fun hmem => hephemeral ((h.map Prod.fst).subset hmem),
    fun hmem => hfilesystem ((h'.map Prod.fst).subset hmem)⟩

/-- Equality does not look at the order of the pragmas. -/
theorem equals_iff (c other : PragmaConfig) :
    c.equals other = true ↔ c.ephemeral.entries.Perm other.ephemeral.entries ∧
      c.filesystem.entries.Perm other.filesystem.entries := by
  unfold equals
  rw [Bool.and_eq_true, LinkedMap.equals_iff_perm, LinkedMap.equals_iff_perm]

/-- What an entry adds to the hash code. -/
def entryHashCode (e : Text × Text) : Int32 := HashCode.ofText e.1 * 31 + HashCode.ofText e.2

/-- What the entries of a map add is the same up to the six highest bits. -/
def EntriesAlike (pragmas : Pragmas) : Prop :=
  ∀ e ∈ pragmas.entries, ∀ e' ∈ pragmas.entries,
    HashCode.SameUpTo 6 (entryHashCode e) (entryHashCode e')

/-- One map after the other is folded into the hash code. -/
theorem hashCode_eq (c : PragmaConfig) :
    c.hashCode = HashCode.foldBase (31 * 31) entryHashCode
      (HashCode.foldBase (31 * 31) entryHashCode 17 c.ephemeral.entries) c.filesystem.entries := by
  unfold hashCode entryHashCodes
  rw [HashCode.foldFrom_flatMap, HashCode.foldFrom_flatMap]
  rfl

/-- All orders of the entries are folded into one hash code. -/
theorem foldBase_entries_iff (pragmas : Pragmas) (r : Int32) :
    (∀ es, es.Perm pragmas.entries → HashCode.foldBase (31 * 31) entryHashCode r es =
      HashCode.foldBase (31 * 31) entryHashCode r pragmas.entries) ↔ EntriesAlike pragmas := by
  have hfold := HashCode.foldBase_perm_iff entryHashCode HashCode.unit_961 r pragmas.entries
  simp only [HashCode.sub_mul_960_eq_zero_iff] at hfold
  exact hfold

/-- Equal configurations hash alike exactly when the order of the pragmas does not matter. -/
theorem agrees_iff {c : PragmaConfig} (hc : c.Built) :
    (∀ other : PragmaConfig, other.Built → c.equals other = true → c.hashCode = other.hashCode) ↔
      EntriesAlike c.ephemeral ∧ EntriesAlike c.filesystem := by
  constructor
  -- reordering one map at a time gives an equal configuration, so its fold may not notice
  · intro h
    constructor
    · -- the other map is folded after it
      refine (foldBase_entries_iff c.ephemeral 17).mp fun es hperm => ?_
      have heq := h _ (built_reorder hc hperm (.refl _))
        ((c.equals_iff _).mpr ⟨hperm.symm, .refl _⟩)
      rw [hashCode_eq, hashCode_eq] at heq
      exact (HashCode.foldBase_injective _ HashCode.unit_961 _ heq).symm
    · refine (foldBase_entries_iff c.filesystem (HashCode.foldBase (31 * 31) entryHashCode 17
        c.ephemeral.entries)).mp fun es hperm => ?_
      have heq := h _ (built_reorder hc (.refl _) hperm)
        ((c.equals_iff _).mpr ⟨.refl _, hperm.symm⟩)
      rw [hashCode_eq, hashCode_eq] at heq
      exact heq.symm
  · rintro ⟨hephemeral, hfilesystem⟩ other _ hequals
    obtain ⟨hperm, hperm'⟩ := (c.equals_iff other).mp hequals
    rw [hashCode_eq, hashCode_eq, (foldBase_entries_iff c.ephemeral _).mpr hephemeral _ hperm.symm,
      (foldBase_entries_iff c.filesystem _).mpr hfilesystem _ hperm'.symm]

end PragmaConfig

/-! ## File systems -/

namespace FilesystemConfig.InDirectory

/-- What builders build: the migrations are null or come out of a builder of theirs. -/
def Built (c : InDirectory) : Prop := ∀ m ∈ c.encryptionMigrationConfig, m.Built

/-- Directories are equal when their paths, configurations and migrations are. -/
theorem equals_iff (c other : InDirectory) :
    c.equals other = true ↔
      c.databasesDir = other.databasesDir ∧ c.encryptionConfig = other.encryptionConfig ∧
        migrationsEqual other.encryptionMigrationConfig c.encryptionMigrationConfig = true := by
  unfold equals
  rw [Bool.and_eq_true, Bool.and_eq_true, beq_iff_eq, EncryptionConfig.equals_iff, and_assoc]
  exact and_congr eq_comm (and_congr_left' eq_comm)

/-- The directories and the encryption do not make a difference. -/
theorem hashCode_eq_iff (E : EnumHashCodes) {c other : InDirectory} (h : c.equals other = true) :
    c.hashCode E = other.hashCode E ↔
      HashCode.ofOption (EncryptionMigrationConfig.hashCode E) c.encryptionMigrationConfig =
        HashCode.ofOption (EncryptionMigrationConfig.hashCode E)
          other.encryptionMigrationConfig := by
  obtain ⟨hdirectory, hencryption, -⟩ := (c.equals_iff other).mp h
  unfold hashCode
  rw [hdirectory, hencryption]
  -- the last one of three is added as it is
  simp only [HashCode.foldFrom, List.foldl_cons, List.foldl_nil]
  constructor
  · intro h
    grind
  · intro h
    rw [h]

/-- Only the order of the migrations does. -/
theorem agrees_iff (E : EnumHashCodes) {c : InDirectory} (hc : c.Built) :
    (∀ other : InDirectory, other.Built → c.equals other = true →
      c.hashCode E = other.hashCode E) ↔
        ∀ m ∈ c.encryptionMigrationConfig, m.HashesAlike E := by
  constructor
  · intro h m hm
    rw [← EncryptionMigrationConfig.agrees_iff E (hc m hm)]
    intro m' hbuilt hequals
    -- the same configuration with the other migrations
    have hmigrations : migrationsEqual (some m') c.encryptionMigrationConfig = true := by
      rw [hm]
      exact (m'.equals_iff m).mpr ((m.equals_iff m').mp hequals).symm
    have hequals' : c.equals { c with encryptionMigrationConfig := some m' } = true :=
      (c.equals_iff _).mpr ⟨rfl, rfl, hmigrations⟩
    have hhash := (hashCode_eq_iff E hequals').mp (h _ (by rintro _ ⟨⟩; exact hbuilt) hequals')
    rw [hm] at hhash
    exact hhash
  · intro h other hother hequals
    have hmigrations := ((c.equals_iff other).mp hequals).2.2
    rw [hashCode_eq_iff E hequals]
    cases hm : c.encryptionMigrationConfig with
    | none =>
      -- null is equal to null only
      cases hm' : other.encryptionMigrationConfig with
      | none => rfl
      | some m' =>
        rw [hm, hm'] at hmigrations
        cases hmigrations
    | some m =>
      cases hm' : other.encryptionMigrationConfig with
      | none =>
        rw [hm, hm'] at hmigrations
        cases hmigrations
      | some m' =>
        rw [hm, hm'] at hmigrations
        exact (EncryptionMigrationConfig.agrees_iff E (hc m hm)).mpr (h m hm) m' (hother m' hm')
          ((m.equals_iff m').mpr ((m'.equals_iff m).mp hmigrations).symm)

end FilesystemConfig.InDirectory

/-! ## Agreement -/

/--
**`equals` and `hashCode`.** Equal cipher configurations, encryption configurations and
migrations have equal hash codes. The classes that hold collections are compared regardless
of the order of the entries and hashed in that order: a migration configuration has the hash
code of all the built ones that are equal to it if and only if the hash codes of its
migrations are the same up to the highest bit; a pragma configuration, if and only if those
of the entries of each map are the same up to the six highest bits; a file system
configuration, if and only if its migrations have it.
-/
theorem equals_hashCode_iff (E : EnumHashCodes) :
    (∀ c other : MCCipherConfig, c.equals other = true → c.hashCode E = other.hashCode E) ∧
    (∀ c other : EncryptionConfig, c.equals other = true → c.hashCode E = other.hashCode E) ∧
    (∀ m other : EncryptionMigration, m.equals other = true → m.hashCode E = other.hashCode E) ∧
    (∀ c : EncryptionMigrationConfig, c.Built →
      ((∀ other : EncryptionMigrationConfig, other.Built → c.equals other = true →
        c.hashCode E = other.hashCode E) ↔ c.HashesAlike E)) ∧
    (∀ c : PragmaConfig, c.Built →
      ((∀ other : PragmaConfig, other.Built → c.equals other = true →
        c.hashCode = other.hashCode) ↔
          PragmaConfig.EntriesAlike c.ephemeral ∧ PragmaConfig.EntriesAlike c.filesystem)) ∧
    ∀ c : FilesystemConfig.InDirectory, c.Built →
      ((∀ other : FilesystemConfig.InDirectory, other.Built → c.equals other = true →
        c.hashCode E = other.hashCode E) ↔
          ∀ m ∈ c.encryptionMigrationConfig, m.HashesAlike E) := by
  refine ⟨?_, ?_, ?_, ?_, ?_, ?_⟩
  · intro c other h
    rw [(c.equals_iff other).mp h]
  · intro c other h
    rw [(c.equals_iff other).mp h]
  · intro m other h
    rw [(m.equals_iff other).mp h]
  · exact fun c hc => EncryptionMigrationConfig.agrees_iff E hc
  · exact fun c hc => PragmaConfig.agrees_iff hc
  · exact fun c hc => FilesystemConfig.InDirectory.agrees_iff E hc

/-! ## The other order -/

/-- The default configuration, with the HMAC check or without. -/
def EncryptionMigration.fromDefault (hmacCheck : Bool) : EncryptionMigration :=
  ⟨{ EncryptionConfig.Default with hmacCheck := hmacCheck }⟩

/-- `migrationFrom` with a block that comes to this. -/
def EncryptionMigration.blockFromDefault (hmacCheck : Bool) : Block EncryptionConfig.Builder.Call :=
  ⟨[.hmacCheck hmacCheck, .chaCha20 MCChaCha20Config.Default ⟨[], none⟩], none⟩

/-- What a builder makes of calls of `migrationFrom`. -/
def EncryptionMigrationConfig.ofBlocks (blocks : List (Block EncryptionConfig.Builder.Call)) :
    Option EncryptionMigrationConfig :=
  (runCalls Builder.call (Builder.new none) (blocks.map .migrationFrom)).build

/-- What a builder makes of a call of `putAll`. -/
def PragmaConfig.ofPairs (pairs : List (Text × Text)) : PragmaConfig :=
  ((Builder.new none).call (.putAll pairs)).build

/-- Two builders of migrations, and two of pragmas, that get the same in the other order. -/
theorem equals_hashCode_fails_order :
    (∀ E, ∃ c other, EncryptionMigrationConfig.ofBlocks
          [EncryptionMigration.blockFromDefault true, EncryptionMigration.blockFromDefault false] =
        some c ∧
      EncryptionMigrationConfig.ofBlocks
          [EncryptionMigration.blockFromDefault false, EncryptionMigration.blockFromDefault true] =
        some other ∧
      c.equals other = true ∧ c.hashCode E ≠ other.hashCode E) ∧
    (PragmaConfig.ofPairs [(Text.lit "a", Text.lit "1"), (Text.lit "b", Text.lit "2")]).equals
        (PragmaConfig.ofPairs [(Text.lit "b", Text.lit "2"), (Text.lit "a", Text.lit "1")]) =
      true ∧
    (PragmaConfig.ofPairs [(Text.lit "a", Text.lit "1"), (Text.lit "b", Text.lit "2")]).hashCode ≠
      (PragmaConfig.ofPairs [(Text.lit "b", Text.lit "2"), (Text.lit "a", Text.lit "1")]).hashCode := by
  refine ⟨fun E => ⟨_, _, rfl, rfl, by decide, ?_⟩, by decide +kernel, by decide +kernel⟩
  -- the default cipher has no fields of enumerations
  have hno : ∀ check, (EncryptionMigration.fromDefault check).hashCode E =
      (EncryptionMigration.fromDefault check).hashCode ⟨fun _ => 0, fun _ => 0, fun _ => 0⟩ :=
    fun check => rfl
  change HashCode.foldFrom 17 [(EncryptionMigration.fromDefault true).hashCode E,
      (EncryptionMigration.fromDefault false).hashCode E] ≠
    HashCode.foldFrom 17 [(EncryptionMigration.fromDefault false).hashCode E,
      (EncryptionMigration.fromDefault true).hashCode E]
  rw [hno, hno]
  decide +kernel

end SqliteMc
