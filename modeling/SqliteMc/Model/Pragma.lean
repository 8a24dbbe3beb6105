import SqliteMc.Lib.LinkedMap
import SqliteMc.Model.Key

/-!
# Pragmas and statements

`MCPragma`, the pragma maps, and `toMCSQLStatements`, which turns a map into the list of
statements that configure a connection, key it, and rekey the file. Statements are kept in
their parts; `Statement.text` is the SQL that is executed.

`FieldType` and `transform` follow the transformers of the source. The transformer of `KEY`
and `RE_KEY` is `Key.retrieveFormatted`, the only one that can throw; it runs in
`applyKeyPragma`, so the field of these two is the formatted key.

* `toMCSQLStatements_isOk_iff`, `toMCSQLStatements_eq_part` — when the statements of a map can be
  made, and what they are.
* `get?_swapped`, `toMCSQLStatements_swapped` — renaming `RE_KEY` to `KEY` in a rekey map
  gives a map whose statements can be made.
-/

namespace SqliteMc

inductive MCPragma where
  | cipher
  | hmacCheck
  | mcLegacyWal
  | legacy
  | legacyPageSize
  | kdfIter
  | fastKdfIter
  | hmacUse
  | hmacPngo
  | hmacSaltMask
  | kdfAlgorithm
  | hmacAlgorithm
  | plainTextHeaderSize
  | key
  | reKey
  deriving DecidableEq, Repr

abbrev MCPragmas := LinkedMap MCPragma Text

namespace MCPragma

def name : MCPragma → Text
  | cipher => Text.lit "cipher"
  | hmacCheck => Text.lit "hmac_check"
  | mcLegacyWal => Text.lit "mc_legacy_wal"
  | legacy => Text.lit "legacy"
  | legacyPageSize => Text.lit "legacy_page_size"
  | kdfIter => Text.lit "kdf_iter"
  | fastKdfIter => Text.lit "fast_kdf_iter"
  | hmacUse => Text.lit "hmac_use"
  | hmacPngo => Text.lit "hmac_pgno"
  | hmacSaltMask => Text.lit "hmac_salt_mask"
  | kdfAlgorithm => Text.lit "kdf_algorithm"
  | hmacAlgorithm => Text.lit "hmac_algorithm"
  | plainTextHeaderSize => Text.lit "plaintext_header_size"
  | key => Text.lit "key"
  | reKey => Text.lit "rekey"

/-- The pragmas between `CIPHER` and `KEY`, in the order of `ALL`. -/
def parameters : List MCPragma :=
  [hmacCheck, mcLegacyWal, legacy, legacyPageSize, kdfIter, fastKdfIter, hmacUse, hmacPngo,
    hmacSaltMask, kdfAlgorithm, hmacAlgorithm, plainTextHeaderSize]

/-- `MCPragma.ALL`. -/
def all : List MCPragma := cipher :: parameters ++ [key, reKey]

theorem mem_all (p : MCPragma) : p ∈ all := by
  cases p <;> decide

@[reducible] def FieldType : MCPragma → Type
  | cipher => Cipher
  | hmacCheck => Bool
  | mcLegacyWal => Bool
  | legacy => Int32
  | legacyPageSize => Int32
  | kdfIter => Int32
  | fastKdfIter => Int32
  | hmacUse => Bool
  | hmacPngo => HmacPngo
  | hmacSaltMask => Int8
  | kdfAlgorithm => KdfAlgorithm
  | hmacAlgorithm => HmacAlgorithm
  | plainTextHeaderSize => Int32
  | key => Text
  | reKey => Text

/-- `TransformBoolean`. -/
def transformBoolean (value : Bool) : Text := Text.ofInt32 (if value then 1 else 0)

def transform : (p : MCPragma) → p.FieldType → Text
  | cipher, value => value.name
  | hmacCheck, value => transformBoolean value
  | mcLegacyWal, value => transformBoolean value
  | legacy, value => Text.ofInt32 value
  | legacyPageSize, value => Text.ofInt32 value
  | kdfIter, value => Text.ofInt32 value
  | fastKdfIter, value => Text.ofInt32 value
  | hmacUse, value => transformBoolean value
  | hmacPngo, value => Text.ofInt32 value.ordinal
  | hmacSaltMask, value => Text.ofInt value.toInt
  | kdfAlgorithm, value => Text.ofInt32 value.ordinal
  | hmacAlgorithm, value => Text.ofInt32 value.ordinal
  | plainTextHeaderSize, value => Text.ofInt32 value
  | key, value => value
  | reKey, value => value

def put (p : MCPragma) (pragmas : MCPragmas) (value : p.FieldType) : MCPragmas :=
  LinkedMap.put pragmas p (p.transform value)

end MCPragma

-- ---------------------------------------------------------------------------
-- Statements
-- ---------------------------------------------------------------------------

inductive Schema where
  | main
  | temp
  deriving DecidableEq, Repr

def Schema.name : Schema → Text
  | main => Text.lit "main"
  | temp => Text.lit "temp"

inductive Statement where
  | selectSchema
  | journalModeDelete
  | cipher (schema : Schema) (value : Text)
  | config (schema : Schema) (pragma : MCPragma) (integer : Int32)
  | key (value : Text)
  | rekey (value : Text)
  deriving DecidableEq, Repr

namespace Statement

def isKey : Statement → Bool
  | key _ => true
  | _ => false

def isRekey : Statement → Bool
  | rekey _ => true
  | _ => false

/-- The statement of a pragma in a schema. The new key is set by `rekey`, and afterwards by
`key`. -/
def of (schema : Schema) : MCPragma → Text → Option Statement
  | .cipher, value => some (.cipher schema value)
  | .key, value => some (.key value)
  | .reKey, value =>
    match schema with
    | .main => some (.key value)
    | .temp => some (.rekey value)
  | p, value => value.toIntOrNull.map (.config schema p)

/-- The SQL of the statement. -/
def text : Statement → Text
  | selectSchema => Text.lit "SELECT 1 FROM sqlite_schema"
  | journalModeDelete => Text.lit "PRAGMA journal_mode = DELETE"
  | cipher schema value =>
    Text.lit "PRAGMA " ++ schema.name ++ Text.lit "." ++ MCPragma.cipher.name ++ Text.lit " = " ++
      value
  | config schema pragma integer =>
    Text.lit "PRAGMA " ++ schema.name ++ Text.lit "." ++ pragma.name ++ Text.lit " = " ++
      Text.ofInt32 integer
  | key value => Text.lit "PRAGMA " ++ MCPragma.key.name ++ Text.lit " = " ++ value
  | rekey value => Text.lit "PRAGMA " ++ MCPragma.reKey.name ++ Text.lit " = " ++ value

end Statement

-- ---------------------------------------------------------------------------
-- From maps to statements
-- ---------------------------------------------------------------------------

namespace MCPragmas

/-- The branches of the loop body: the statement to add, and the one to run again after a
rekey. -/
def sql (isRekey : Bool) (p : MCPragma) (value : Text) : Except Throwable (Statement × Statement) :=
  let schemaName := if isRekey then Schema.temp else Schema.main
  match p with
  | .cipher => .ok (.cipher schemaName value, .cipher .main value)
  | .key => .ok (.key value, .key value)
  | .reKey => .ok (.rekey value, .key value)
  | p =>
    match value.toIntOrNull with
    | none => .error (.illegalArgument (Text.lit "wtf???"))
    | some integer => .ok (.config schemaName p integer, .config .main p integer)

/-- The loop over `ALL`: the statements added, and those collected in `rekeyNonTransient`. -/
def loop (m : MCPragmas) (isRekey : Bool) :
    List MCPragma → Except Throwable (List Statement × List Statement)
  | [] => .ok ([], [])
  | p :: rest =>
    match m.get? p with
    | none => loop m isRekey rest
    | some value => do
      let s ← sql isRekey p value
      let others ← loop m isRekey rest
      return (s.1 :: others.1, s.2 :: others.2)

/-- `get(CIPHER)?.let { Cipher.valueOf(it) } ?: throw …`. -/
def checkCipher (m : MCPragmas) : Except Throwable Unit :=
  match m.get? .cipher with
  | none => .error (.illegalArgument (Text.lit "cipher is a required parameter"))
  | some value => (Cipher.valueOf value).map fun _ => ()

def toMCSQLStatements (m : MCPragmas) : Except Throwable (List Statement) := do
  checkCipher m
  require (m.contains .legacy) "legacy is a required parameter"
  let isRekey := m.contains .reKey
  require (isRekey ∨ m.contains .key) "key or rekey is a required parameter"
  let added ← loop m isRekey MCPragma.all
  return (if isRekey then [.selectSchema, .journalModeDelete] else []) ++ added.1 ++
    (if isRekey then added.2 else [])

/-- `keyPragma` after a successful rekey: cleared, then filled with the entries of
`rekeyPragma`, `RE_KEY` renamed to `KEY`. -/
def swapped (rekey : MCPragmas) : MCPragmas :=
  LinkedMap.empty.putAll (rekey.entries.map fun e => if e.1 = .reKey then (.key, e.2) else e)

/-- A pragma is in the map when it has a value there. -/
theorem contains_eq {m : MCPragmas} {p : MCPragma} : m.contains p = (m.get? p).isSome := rfl

-- ---------------------------------------------------------------------------
-- Success
-- ---------------------------------------------------------------------------

/-- Only the value of a parameter has to be an integer. -/
theorem sql_isOk_iff (isRekey : Bool) (p : MCPragma) (value : Text) :
    (∃ s, sql isRekey p value = .ok s) ↔ (p ∈ MCPragma.parameters → value.toIntOrNull ≠ none) := by
  cases p <;> simp only [sql, MCPragma.parameters] <;> cases value.toIntOrNull <;> simp

/-- The loop succeeds when each value it meets does. -/
theorem loop_isOk_iff (m : MCPragmas) (isRekey : Bool) (ps : List MCPragma) :
    (∃ added, loop m isRekey ps = .ok added) ↔
      ∀ p ∈ ps, ∀ value, m.get? p = some value → ∃ s, sql isRekey p value = .ok s := by
  induction ps with
  | nil => simp [loop]
  | cons p rest ih =>
    rw [loop, List.forall_mem_cons, ← ih]
    -- a pragma that is not in the map is passed over
    cases m.get? p with
    | none => simp
    | some value =>
      constructor
      · rintro ⟨added, h⟩
        obtain ⟨s, hs, h⟩ := bind_eq_ok.mp h
        obtain ⟨others, hothers, -⟩ := bind_eq_ok.mp h
        exact ⟨by rintro _ ⟨⟩; exact ⟨s, hs⟩, others, hothers⟩
      · rintro ⟨hvalue, others, hothers⟩
        obtain ⟨s, hs⟩ := hvalue value rfl
        exact ⟨_, bind_eq_ok.mpr ⟨s, hs, bind_eq_ok.mpr ⟨others, hothers, rfl⟩⟩⟩

/-- The check of the cipher passes when the map names one that exists. -/
theorem checkCipher_eq_ok {m : MCPragmas} {u : Unit} :
    checkCipher m = .ok u ↔ ∃ v c, m.get? .cipher = some v ∧ Cipher.valueOf v = .ok c := by
  unfold checkCipher
  cases hget : m.get? .cipher with
  | none => simp
  | some v => cases hv : Cipher.valueOf v <;> simp [Except.map, hv]

/-- What it takes for the statements of a map to be made. -/
theorem toMCSQLStatements_isOk_iff (m : MCPragmas) :
    (∃ sts, toMCSQLStatements m = .ok sts) ↔
      (∃ v c, m.get? .cipher = some v ∧ Cipher.valueOf v = .ok c) ∧
      m.contains .legacy = true ∧ (m.contains .reKey = true ∨ m.contains .key = true) ∧
      ∀ p ∈ MCPragma.parameters, ∀ v, m.get? p = some v → v.toIntOrNull ≠ none := by
  -- of the pragmas that the loop meets it parses all but the cipher and the two keys
  have hloop : (∃ added, loop m (m.contains .reKey) MCPragma.all = .ok added) ↔
      ∀ p ∈ MCPragma.parameters, ∀ v, m.get? p = some v → v.toIntOrNull ≠ none := by
    simp only [loop_isOk_iff, sql_isOk_iff, MCPragma.mem_all, true_imp_iff]
    exact forall_congr' fun p => ⟨fun h hp v hv => h v hv hp, fun h v hv hp => h hp v hv⟩
  rw [← hloop]
  constructor
  · rintro ⟨sts, h⟩
    -- the checks are made one after the other
    obtain ⟨_, hcipher, h⟩ := bind_eq_ok.mp h
    obtain ⟨_, hlegacy, h⟩ := bind_eq_ok.mp h
    obtain ⟨_, hkey, h⟩ := bind_eq_ok.mp h
    obtain ⟨added, hadded, -⟩ := bind_eq_ok.mp h
    exact ⟨checkCipher_eq_ok.mp hcipher, require_eq_ok.mp hlegacy, require_eq_ok.mp hkey, added,
      hadded⟩
  · rintro ⟨hcipher, hlegacy, hkey, added, hadded⟩
    exact ⟨_, bind_eq_ok.mpr ⟨(), checkCipher_eq_ok.mpr hcipher,
      bind_eq_ok.mpr ⟨(), require_eq_ok.mpr hlegacy,
        bind_eq_ok.mpr ⟨(), require_eq_ok.mpr hkey, bind_eq_ok.mpr ⟨added, hadded, rfl⟩⟩⟩⟩⟩

-- ---------------------------------------------------------------------------
-- One statement a pragma
-- ---------------------------------------------------------------------------

/-- The statements of the pragmas `ps` in a schema. -/
def part (m : MCPragmas) (schema : Schema) (ps : List MCPragma) : List Statement :=
  ps.filterMap fun p => (m.get? p).bind (Statement.of schema p)

theorem part_append (m : MCPragmas) (schema : Schema) (ps qs : List MCPragma) :
    m.part schema (ps ++ qs) = m.part schema ps ++ m.part schema qs := List.filterMap_append

/-- The statements for some pragmas depend on the values of these pragmas. -/
theorem part_congr {m m' : MCPragmas} {ps : List MCPragma} (h : ∀ p ∈ ps, m.get? p = m'.get? p)
    (schema : Schema) : m.part schema ps = m'.part schema ps :=
  List.filterMap_congr fun p hp => by rw [h p hp]

/-- The pragmas in front of the key: the cipher and its parameters. -/
def settingPragmas : List MCPragma := .cipher :: MCPragma.parameters

/-- The order of the pragmas ends with the two that carry keys. -/
theorem all_eq : MCPragma.all = settingPragmas ++ [.key, .reKey] := rfl

/-- The end of a part: the key, under one of its two names. -/
theorem part_of_key {m : MCPragmas} {value : Text} (hkey : m.get? .key = some value)
    (hrekey : m.get? .reKey = none) (schema : Schema) :
    m.part schema [.key, .reKey] = [.key value] := by
  unfold part
  rw [List.filterMap_cons_some (by rw [hkey]; rfl), List.filterMap_cons_none (by rw [hrekey]; rfl)]
  rfl

/-- Of the two that carry keys a rekey map has the second one. -/
theorem part_of_reKey {m : MCPragmas} {value : Text} (hkey : m.get? .key = none)
    (hrekey : m.get? .reKey = some value) (schema : Schema) :
    m.part schema [.key, .reKey] = (Statement.of schema .reKey value).toList := by
  unfold part
  rw [List.filterMap_cons_none (by rw [hkey]; rfl)]
  cases schema <;> rw [List.filterMap_cons_some (by rw [hrekey]; rfl)] <;> rfl

/-- What the loop adds for a pragma, and what it collects for later. -/
theorem of_of_sql {isRekey : Bool} {p : MCPragma} (hp : p = .reKey → isRekey = true)
    {value : Text} {s : Statement × Statement} (h : sql isRekey p value = .ok s) :
    Statement.of (if isRekey then .temp else .main) p value = some s.1 ∧
      Statement.of .main p value = some s.2 := by
  cases p with
  | cipher =>
    cases h
    exact ⟨rfl, rfl⟩
  | key =>
    cases h
    exact ⟨rfl, rfl⟩
  | reKey =>
    cases h
    rw [hp rfl]
    exact ⟨rfl, rfl⟩
  | _ =>
    -- a parameter, whose value has been parsed
    simp only [sql] at h
    cases hv : value.toIntOrNull with
    | none =>
      rw [hv] at h
      cases h
    | some n =>
      rw [hv] at h
      cases h
      simp only [Statement.of, hv]
      exact ⟨rfl, rfl⟩

/-- What the loop gives, if it succeeds. -/
theorem loop_eq_part {m : MCPragmas} {isRekey : Bool}
    (hrekey : m.contains .reKey = true → isRekey = true) {ps : List MCPragma}
    {added : List Statement × List Statement} (h : loop m isRekey ps = .ok added) :
    added.1 = m.part (if isRekey then .temp else .main) ps ∧ added.2 = m.part .main ps := by
  -- both lists grow by the statement of the pragma that is looked at
  induction ps generalizing added with
  | nil =>
    cases h
    exact ⟨rfl, rfl⟩
  | cons p rest ih =>
    rw [loop] at h
    unfold part
    cases hget : m.get? p with
    | none =>
      rw [hget] at h
      rw [List.filterMap_cons_none (by rw [hget]; rfl), List.filterMap_cons_none (by rw [hget]; rfl)]
      exact ih h
    | some value =>
      rw [hget] at h
      obtain ⟨s, hs, h⟩ := bind_eq_ok.mp h
      obtain ⟨others, hothers, h⟩ := bind_eq_ok.mp h
      cases h
      have hp : p = .reKey → isRekey = true := by
        rintro rfl
        exact hrekey (by rw [contains_eq, hget]; rfl)
      obtain ⟨hadded, hcollected⟩ := of_of_sql hp hs
      obtain ⟨ihadded, ihcollected⟩ := ih hothers
      rw [List.filterMap_cons_some (by rw [hget]; exact hadded),
        List.filterMap_cons_some (by rw [hget]; exact hcollected)]
      exact ⟨congrArg (s.1 :: ·) ihadded, congrArg (s.2 :: ·) ihcollected⟩

/-- **The statements of a map**, if there are any: the parts for both schemas when it rekeys,
else that of the main schema. -/
theorem toMCSQLStatements_eq_part {m : MCPragmas} {sts : List Statement}
    (h : toMCSQLStatements m = .ok sts) :
    sts = if m.contains .reKey then
        [.selectSchema, .journalModeDelete] ++ m.part .temp MCPragma.all ++
          m.part .main MCPragma.all
      else m.part .main MCPragma.all := by
  obtain ⟨_, -, h⟩ := bind_eq_ok.mp h
  obtain ⟨_, -, h⟩ := bind_eq_ok.mp h
  obtain ⟨_, -, h⟩ := bind_eq_ok.mp h
  obtain ⟨added, hadded, h⟩ := bind_eq_ok.mp h
  -- both parts are made in the one loop
  obtain ⟨hfst, hsnd⟩ := loop_eq_part id hadded
  cases h
  rw [hfst, hsnd]
  by_cases hrekey : m.contains .reKey = true
  · rw [hrekey]
    rfl
  · rw [Bool.not_eq_true] at hrekey
    rw [hrekey]
    exact List.append_nil _

/-- Nothing is rekeyed in the main schema. -/
theorem isRekey_of_mem_part {m : MCPragmas} {ps : List MCPragma} {s : Statement}
    (h : s ∈ m.part .main ps) : s.isRekey = false := by
  obtain ⟨p, -, hs⟩ := List.mem_filterMap.mp h
  obtain ⟨value, -, hs⟩ := Option.bind_eq_some_iff.mp hs
  cases p with
  | cipher => cases hs; rfl
  | key => cases hs; rfl
  | reKey => cases hs; rfl
  | _ =>
    obtain ⟨n, -, rfl⟩ := Option.map_eq_some_iff.mp hs
    rfl

/-- The statements of a map without `RE_KEY` do not rekey. -/
theorem isRekey_of_toMCSQLStatements {m : MCPragmas} (hm : m.contains .reKey = false)
    {sts : List Statement} (h : toMCSQLStatements m = .ok sts) :
    ∀ s ∈ sts, s.isRekey = false := by
  have hsts := toMCSQLStatements_eq_part h
  rw [if_neg (Bool.eq_false_iff.mp hm)] at hsts
  rw [hsts]
  exact fun s hs => isRekey_of_mem_part hs

-- ---------------------------------------------------------------------------
-- Swapping
-- ---------------------------------------------------------------------------

/-- Renaming `rekey` to `key` keeps the pragmas distinct where there is no `key`. -/
private theorem keys_rename {es : List (MCPragma × Text)} (hnodup : (es.map Prod.fst).Nodup)
    (hkey : MCPragma.key ∉ es.map Prod.fst) :
    ((es.map fun e => if e.1 = .reKey then (MCPragma.key, e.2) else e).map Prod.fst).Nodup := by
  rw [List.map_map]
  -- there is no `KEY` yet, so the new name is not taken
  have hinj : ∀ a ∈ es, ∀ b ∈ es,
      (if a.1 = .reKey then (MCPragma.key, a.2) else a).1 =
        (if b.1 = .reKey then (MCPragma.key, b.2) else b).1 → a.1 = b.1 := by
    intro a ha b hb hab
    have hane : a.1 ≠ .key := fun h => hkey (List.mem_map.mpr ⟨a, ha, h⟩)
    have hbne : b.1 ≠ .key := fun h => hkey (List.mem_map.mpr ⟨b, hb, h⟩)
    by_cases h1 : a.1 = .reKey <;> by_cases h2 : b.1 = .reKey <;> simp_all
  rw [List.Nodup, List.pairwise_map] at *
  refine hnodup.imp_of_mem ?_
  intro a b ha hb hne hab
  exact hne (hinj a ha b hb hab)

/-- Renaming leaves one entry a key. -/
theorem entries_swapped {m : MCPragmas} (hkey : m.contains .key = false) :
    (swapped m).entries =
      m.entries.map fun e => if e.1 = .reKey then (MCPragma.key, e.2) else e := by
  have hnotmem : MCPragma.key ∉ m.entries.map Prod.fst := by
    intro h
    rw [← LinkedMap.keys, LinkedMap.mem_keys_iff, hkey] at h
    exact Bool.false_ne_true h
  exact LinkedMap.entries_putAll (keys_rename m.nodup hnotmem)

/-- The swapped map has the rekey map's values, the new key under `KEY`, and no `RE_KEY`. -/
theorem get?_swapped {m : MCPragmas} (hkey : m.contains .key = false) (p : MCPragma) :
    (swapped m).get? p =
      if p = .key then m.get? .reKey else if p = .reKey then none else m.get? p := by
  have hnone : m.get? .key = none := Option.not_isSome_iff_eq_none.mp (Bool.eq_false_iff.mp hkey)
  -- the entry that is renamed to one of `p`
  have hiff : ∀ v, (swapped m).get? p = some v ↔
      ∃ q, m.get? q = some v ∧ (if q = .reKey then .key else q) = p := by
    intro v
    rw [← LinkedMap.mem_entries_iff, entries_swapped hkey, List.mem_map]
    constructor
    · rintro ⟨⟨q, w⟩, hmem, heq⟩
      have hget := (m.mem_entries_iff q w).mp hmem
      by_cases hq : q = .reKey
      · rw [if_pos hq] at heq
        cases heq
        exact ⟨q, hget, if_pos hq⟩
      · rw [if_neg hq] at heq
        cases heq
        exact ⟨_, hget, if_neg hq⟩
    · rintro ⟨q, hget, rfl⟩
      refine ⟨(q, v), (m.mem_entries_iff q v).mpr hget, ?_⟩
      by_cases hq : q = .reKey
      · rw [if_pos hq, if_pos hq]
      · rw [if_neg hq, if_neg hq]
  apply Option.ext
  intro v
  rw [hiff v]
  constructor
  · rintro ⟨q, hget, rfl⟩
    by_cases hq : q = .reKey
    · rw [if_pos hq, if_pos rfl, ← hq]
      exact hget
    · have hne : q ≠ .key := by
        rintro rfl
        rw [hnone] at hget
        cases hget
      rw [if_neg hq, if_neg hne, if_neg hq]
      exact hget
  · intro h
    by_cases hp : p = .key
    · rw [if_pos hp] at h
      exact ⟨.reKey, h, hp ▸ rfl⟩
    · rw [if_neg hp] at h
      by_cases hq : p = .reKey
      · rw [if_pos hq] at h
        cases h
      · rw [if_neg hq] at h
        exact ⟨p, h, if_neg hq⟩

/-- If the statements of a rekey map can be made, so can those of the swapped map. -/
theorem toMCSQLStatements_swapped {m : MCPragmas} (hkey : m.contains .key = false)
    (hrekey : m.contains .reKey = true) (h : ∃ sts, toMCSQLStatements m = .ok sts) :
    ∃ sts, toMCSQLStatements (swapped m) = .ok sts := by
  rw [toMCSQLStatements_isOk_iff] at h ⊢
  obtain ⟨hcipher, hlegacy, -, hvalues⟩ := h
  refine ⟨?_, ?_, Or.inr ?_, ?_⟩
  · rw [get?_swapped hkey]
    exact hcipher
  · rw [contains_eq, get?_swapped hkey]
    exact hlegacy
  · rw [contains_eq, get?_swapped hkey, if_pos rfl]
    exact hrekey
  · intro p hp v hget
    rw [get?_swapped hkey] at hget
    -- neither key is parsed
    split_ifs at hget with h1 h2
    · exact absurd (h1 ▸ hp) (by decide)
    · exact hvalues p hp v hget

end MCPragmas

end SqliteMc
